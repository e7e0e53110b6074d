import Jellyrin.Defs.Data.SortOn
import Mathlib.Data.List.Induction
import Mathlib.Data.Prod.Lex

/-! The first row of every key in the order of the rows, and sorting that keeps ties in order. -/

namespace Jellyrin

universe u v w

section Firsts

variable {α : Type u} {K : Type v} [DecidableEq K] {key : α → K} {a : α} {rows : List α}

def firstsBy (key : α → K) : List α → List α
  | [] => []
  | a :: rows => a :: (firstsBy key rows).filter fun b => key b ≠ key a

theorem firstsBy_sublist (key : α → K) (rows : List α) : (firstsBy key rows).Sublist rows := by
  induction rows with
  | nil => exact List.Sublist.slnil
  | cons a rows ih => exact (List.filter_sublist.trans ih).cons_cons a

theorem mem_firstsBy : a ∈ firstsBy key rows ↔ rows.find? (fun b => key b = key a) = some a := by
  induction rows with
  | nil => simp [firstsBy]
  | cons b rows ih =>
    rw [firstsBy, List.mem_cons, List.mem_filter, ih, List.find?_cons]
    by_cases hkey : key b = key a
    · simp [hkey, eq_comm]
    · have hne : a ≠ b := by
        rintro rfl
        exact hkey rfl
      simp [hkey, hne, Ne.symm hkey]

theorem nodup_firstsBy : ((firstsBy key rows).map key).Nodup := by
  induction rows with
  | nil => exact List.nodup_nil
  | cons a rows ih =>
    rw [firstsBy, List.map_cons, List.nodup_cons]
    refine ⟨?_, ih.sublist (List.filter_sublist.map key)⟩
    intro hmem
    obtain ⟨b, hb, hkey⟩ := List.mem_map.mp hmem
    exact of_decide_eq_true (List.mem_filter.mp hb).2 hkey

theorem mem_map_firstsBy {k : K} : k ∈ (firstsBy key rows).map key ↔ k ∈ rows.map key := by
  constructor
  · exact ((firstsBy_sublist key rows).map key).mem
  · intro hk
    obtain ⟨a, ha, rfl⟩ := List.mem_map.mp hk
    cases hfind : rows.find? (fun b => key b = key a) with
    | none => exact absurd (decide_eq_true rfl) (List.find?_eq_none.mp hfind a ha)
    | some first =>
      have hkey : key first = key a := by simpa using List.find?_some hfind
      exact List.mem_map.mpr ⟨first, mem_firstsBy.mpr (by rw [hkey, hfind]), hkey⟩

theorem firstsBy_of_forall_eq (h : ∀ b ∈ rows, key b = key a) : firstsBy key (a :: rows) = [a] := by
  rw [firstsBy, List.filter_eq_nil_iff.mpr]
  intro b hb
  simpa using h b ((firstsBy_sublist key rows).mem hb)

theorem firstsBy_concat (rows : List α) (a : α) : firstsBy key (rows ++ [a]) =
    firstsBy key rows ++ if key a ∈ rows.map key then [] else [a] := by
  induction rows with
  | nil => rfl
  | cons b rows ih =>
    rw [List.cons_append, firstsBy, firstsBy, ih, List.filter_append, List.cons_append,
      List.map_cons]
    congr 2
    by_cases hkey : key a = key b
    · rw [if_pos (List.mem_cons.mpr (.inl hkey))]
      split <;> simp [hkey]
    · simp only [List.mem_cons, hkey, false_or]
      split <;> simp [hkey]

theorem firstsBy_append (rows rows' : List α) : firstsBy key (rows ++ rows') =
    firstsBy key rows ++ (firstsBy key rows').filter fun b => key b ∉ rows.map key := by
  induction rows with
  | nil => simp [firstsBy]
  | cons a rows ih =>
    rw [List.cons_append, firstsBy, firstsBy, ih, List.filter_append, List.filter_filter,
      List.cons_append]
    congr 2
    refine List.filter_congr fun b _ => ?_
    simp

theorem firstsBy_map (key : α → K) (rows : List α) :
    firstsBy id (rows.map key) = (firstsBy key rows).map key := by
  induction rows with
  | nil => rfl
  | cons a rows ih =>
    rw [List.map_cons, firstsBy, firstsBy, List.map_cons, ih, List.filter_map]
    rfl

theorem map_fst_firstsBy {β : Type w} (key : α → K) (rows : List (α × β)) :
    (firstsBy (fun row => key row.1) rows).map Prod.fst = firstsBy key (rows.map Prod.fst) := by
  induction rows with
  | nil => rfl
  | cons row rows ih =>
    rw [firstsBy, List.map_cons, List.map_cons, firstsBy, ← ih, List.filter_map]
    rfl

end Firsts

/-! Parts whose rows are in order are put together in the order of their names. -/

section Parts

variable {α : Type u} {K : Type v} [DecidableEq K] {key : α → K} {β : Type w} {rows : β → List α}
  {ν τ : Type*} [LinearOrder ν] [Preorder τ] {name : β → ν} {time : α → τ}

/-- The rows of a part that no part before it has come after those of the parts before it. -/
def RowsInOrder (key : α → K) (time : α → τ) (name : β → ν) (rows : β → List α)
    (parts : List β) : Prop :=
  ∀ part ∈ parts, ∀ earlier ∈ parts, name earlier < name part →
    ∀ a ∈ rows earlier, ∀ b ∈ rows part,
      (∀ other ∈ parts, name other < name part → key b ∉ (rows other).map key) → time a ≤ time b

omit [DecidableEq K] in
theorem rowsInOrder_concat {parts : List β} {last : β}
    (hlast : ∀ part ∈ parts, name part < name last) :
    RowsInOrder key time name rows (parts ++ [last]) ↔ RowsInOrder key time name rows parts ∧
      ∀ a ∈ parts.flatMap rows, ∀ b ∈ rows last,
        key b ∉ (parts.flatMap rows).map key → time a ≤ time b := by
  have hmem : ∀ {part other : β}, part ∈ parts → other ∈ parts ++ [last] → name other < name part →
      other ∈ parts := by
    intro part other hpart hother hlt
    obtain hother | hother := List.mem_append.mp hother
    · exact hother
    · cases List.mem_singleton.mp hother
      exact absurd hlt (hlast part hpart).not_gt
  constructor
  · intro h
    refine ⟨?_, ?_⟩
    · intro part hpart earlier hearlier hlt a ha b hb hnew
      exact h part (List.mem_append_left _ hpart) earlier (List.mem_append_left _ hearlier) hlt a ha
        b hb fun other hother hbefore => hnew other (hmem hpart hother hbefore) hbefore
    · intro a ha b hb hnew
      obtain ⟨earlier, hearlier, ha⟩ := List.mem_flatMap.mp ha
      refine h last (by simp) earlier (List.mem_append_left _ hearlier) (hlast earlier hearlier) a ha
        b hb fun other hother hbefore hkey => ?_
      obtain hother | hother := List.mem_append.mp hother
      · obtain ⟨c, hc, heq⟩ := List.mem_map.mp hkey
        exact hnew (heq ▸ List.mem_map_of_mem (List.mem_flatMap.mpr ⟨other, hother, hc⟩))
      · cases List.mem_singleton.mp hother
        exact lt_irrefl _ hbefore
  · rintro ⟨hparts, hnew⟩ part hpart earlier hearlier hlt a ha b hb hfirst
    obtain hpart | hpart := List.mem_append.mp hpart
    · exact hparts part hpart earlier (hmem hpart hearlier hlt) hlt a ha b hb
        fun other hother hbefore => hfirst other (List.mem_append_left _ hother) hbefore
    · cases List.mem_singleton.mp hpart
      have hbefore : earlier ∈ parts := by
        obtain hearlier | hearlier := List.mem_append.mp hearlier
        · exact hearlier
        · cases List.mem_singleton.mp hearlier
          exact absurd hlt (lt_irrefl _)
      refine hnew a (List.mem_flatMap.mpr ⟨earlier, hbefore, ha⟩) b hb fun hkey => ?_
      obtain ⟨c, hc, heq⟩ := List.mem_map.mp hkey
      obtain ⟨other, hother, hc⟩ := List.mem_flatMap.mp hc
      exact hfirst other (List.mem_append_left _ hother) (hlast other hother)
        (heq ▸ List.mem_map_of_mem hc)

theorem pairwise_firstsBy_flatMap_iff {parts : List β}
    (hparts : parts.Pairwise fun part other => name part < name other)
    (hrows : ∀ part ∈ parts, (rows part).Pairwise fun a b => time a ≤ time b)
    (hkey : ∀ {a b}, key a = key b → time a = time b) :
    (firstsBy key (parts.flatMap rows)).Pairwise (fun a b => time a ≤ time b) ↔
      RowsInOrder key time name rows parts := by
  induction parts using List.reverseRecOn with
  | nil => simp [RowsInOrder, firstsBy]
  | append_singleton parts last ih =>
    obtain ⟨hbefore, -, hlast⟩ := List.pairwise_append.mp hparts
    have hlt : ∀ part ∈ parts, name part < name last := fun part hpart =>
      hlast part hpart last (List.mem_singleton_self last)
    have hown : ((firstsBy key (rows last)).filter
        fun b => key b ∉ (parts.flatMap rows).map key).Pairwise fun a b => time a ≤ time b :=
      (hrows last (by simp)).sublist (List.filter_sublist.trans (firstsBy_sublist key _))
    rw [List.flatMap_append, List.flatMap_singleton, firstsBy_append, List.pairwise_append,
      ih hbefore fun part hpart => hrows part (List.mem_append_left _ hpart),
      rowsInOrder_concat hlt]
    refine and_congr_right fun _ => (and_iff_right hown).trans ?_
    -- every row has the time of the first row of its key
    have hfirst : ∀ {l : List α} {a}, a ∈ l → ∃ first ∈ firstsBy key l, key first = key a := by
      intro l a ha
      exact List.mem_map.mp (mem_map_firstsBy.mpr (List.mem_map_of_mem ha))
    constructor
    · intro h a ha b hb hnew
      obtain ⟨first, hmem, hfirsta⟩ := hfirst ha
      obtain ⟨first', hmem', hfirstb⟩ := hfirst hb
      rw [← hkey hfirsta, ← hkey hfirstb]
      refine h first hmem first' (List.mem_filter.mpr ⟨hmem', ?_⟩)
      rw [hfirstb]
      exact decide_eq_true hnew
    · intro h a ha b hb
      obtain ⟨hb, hnew⟩ := List.mem_filter.mp hb
      exact h a ((firstsBy_sublist key _).mem ha) b ((firstsBy_sublist key _).mem hb)
        (of_decide_eq_true hnew)

end Parts

section Stable

variable {α : Type u} {β : Type v} {γ : Type w} [LinearOrder β] [LinearOrder γ] {key : α → β}
  {tie : α → γ}

theorem pairwise_orderedInsert_lex {a : α} {l : List α}
    (hl : l.Pairwise fun b c => toLex (key b, tie b) < toLex (key c, tie c))
    (ha : ∀ b ∈ l, tie a < tie b) :
    (l.orderedInsert (fun b c => key b ≤ key c) a).Pairwise
      fun b c => toLex (key b, tie b) < toLex (key c, tie c) := by
  induction l with
  | nil => exact List.pairwise_singleton _ _
  | cons b l ih =>
    obtain ⟨hb, hrest⟩ := List.pairwise_cons.mp hl
    rw [List.orderedInsert_cons]
    split
    · rename_i hle
      refine List.pairwise_cons.mpr ⟨?_, hl⟩
      have hfirst : ∀ c ∈ b :: l, key b ≤ key c := by
        intro c hc
        obtain rfl | hc := List.mem_cons.mp hc
        · exact le_rfl
        · exact (Prod.Lex.toLex_lt_toLex.mp (hb c hc)).elim le_of_lt fun heq => heq.1.le
      intro c hc
      exact Prod.Lex.toLex_lt_toLex.mpr
        ((hle.trans (hfirst c hc)).lt_or_eq.imp_right fun heq => ⟨heq, ha c hc⟩)
    · rename_i hgt
      refine List.pairwise_cons.mpr ⟨?_, ih hrest fun c hc => ha c (List.mem_cons_of_mem _ hc)⟩
      intro c hc
      obtain rfl | hc := (List.mem_orderedInsert _).mp hc
      · exact Prod.Lex.toLex_lt_toLex.mpr (.inl (not_le.mp hgt))
      · exact hb c hc

theorem pairwise_lex_sortOn {l : List α} (h : l.Pairwise fun a b => tie a < tie b) :
    (sortOn key l).Pairwise fun a b => toLex (key a, tie a) < toLex (key b, tie b) := by
  induction l with
  | nil => exact List.Pairwise.nil
  | cons a l ih =>
    obtain ⟨ha, hrest⟩ := List.pairwise_cons.mp h
    rw [sortOn_cons]
    exact pairwise_orderedInsert_lex (ih hrest) fun b hb => ha b (mem_sortOn.mp hb)

theorem sortOn_map {δ : Type*} (f : δ → α) (l : List δ) :
    sortOn key (l.map f) = (sortOn (fun d => key (f d)) l).map f := by
  have hinsert : ∀ (d : δ) (l : List δ),
      (l.map f).orderedInsert (fun a b => key a ≤ key b) (f d) =
        (l.orderedInsert (fun a b => key (f a) ≤ key (f b)) d).map f := by
    intro d l
    induction l with
    | nil => rfl
    | cons e l ih =>
      rw [List.map_cons, List.orderedInsert_cons, List.orderedInsert_cons, ih]
      split <;> rfl
  induction l with
  | nil => rfl
  | cons d l ih => rw [List.map_cons, sortOn_cons, ih, sortOn_cons, hinsert]

def StablySorted (key : α → β) (rows sorted : List α) : Prop :=
  ∃ placed : List (α × Nat), placed.Perm rows.zipIdx ∧ placed.map Prod.fst = sorted ∧
    placed.Pairwise fun a b => toLex (key a.1, a.2) < toLex (key b.1, b.2)

theorem pairwise_snd_zipIdx (rows : List α) (n : Nat) :
    (rows.zipIdx n).Pairwise fun a b => a.2 < b.2 := by
  induction rows generalizing n with
  | nil => exact List.Pairwise.nil
  | cons a rows ih =>
    rw [List.zipIdx_cons]
    refine List.pairwise_cons.mpr ⟨?_, ih (n + 1)⟩
    intro b hb
    exact List.le_snd_of_mem_zipIdx hb

theorem stablySorted_iff {rows sorted : List α} :
    StablySorted key rows sorted ↔ sorted = sortOn key rows := by
  have hplaced : (sortOn (fun row : α × Nat => key row.1) rows.zipIdx).Pairwise
      fun a b => toLex (key a.1, a.2) < toLex (key b.1, b.2) :=
    pairwise_lex_sortOn (pairwise_snd_zipIdx rows 0)
  have hrows : (sortOn (fun row : α × Nat => key row.1) rows.zipIdx).map Prod.fst =
      sortOn key rows := by
    rw [← sortOn_map Prod.fst, List.zipIdx_map_fst]
  constructor
  · rintro ⟨placed, hperm, rfl, hpairwise⟩
    rw [← hrows]
    refine congrArg (List.map Prod.fst) (List.Perm.eq_of_pairwise ?_ hpairwise hplaced
      (hperm.trans (sortOn_perm _ _).symm))
    intro a b _ _ hlt hgt
    exact absurd hgt hlt.not_gt
  · rintro rfl
    exact ⟨_, sortOn_perm _ _, hrows, hplaced⟩

end Stable

end Jellyrin
