import Mathlib.Data.List.Basic

/-! Replacing of a sequence, wherever it stands in a list. -/

namespace Jellyrin

universe u

variable {α : Type u} [BEq α]

def replaceFrom (pattern new : List α) : Nat → List α → List α
  | _, [] => []
  | skip + 1, _ :: as => replaceFrom pattern new skip as
  | 0, a :: as =>
    if pattern.isPrefixOf (a :: as) then new ++ replaceFrom pattern new (pattern.length - 1) as
    else a :: replaceFrom pattern new 0 as

def replace (pattern new as : List α) : List α := replaceFrom pattern new 0 as

variable {pattern new as : List α}

@[simp] theorem replace_nil (pattern new : List α) : replace pattern new [] = [] := rfl

theorem replaceFrom_append (skipped as : List α) :
    replaceFrom pattern new skipped.length (skipped ++ as) = replace pattern new as := by
  induction skipped with
  | nil => rfl
  | cons a skipped ih => exact ih

variable [LawfulBEq α]

theorem replace_cons {a : α} (h : ¬ pattern <+: a :: as) :
    replace pattern new (a :: as) = a :: replace pattern new as := by
  rw [replace, replaceFrom, if_neg]
  · rfl
  · rwa [List.isPrefixOf_iff_prefix]

theorem replace_append (h : pattern ≠ []) (new as : List α) :
    replace pattern new (pattern ++ as) = new ++ replace pattern new as := by
  cases pattern with
  | nil => exact absurd rfl h
  | cons a pattern =>
    have hfirst : (a :: pattern).isPrefixOf (a :: (pattern ++ as)) = true :=
      List.isPrefixOf_iff_prefix.mpr (List.prefix_append (a :: pattern) as)
    rw [List.cons_append, replace, replaceFrom, if_pos hfirst, List.length_cons,
      Nat.add_sub_cancel, replaceFrom_append]

theorem replace_passes {a : α} {kept : List α} (h : a ∉ kept) (as : List α) :
    replace (a :: pattern) new (kept ++ as) = kept ++ replace (a :: pattern) new as := by
  induction kept with
  | nil => rfl
  | cons b kept ih =>
    rw [List.mem_cons, not_or] at h
    rw [List.cons_append, replace_cons, ih h.2, List.cons_append]
    intro hprefix
    exact h.1 (List.cons_prefix_cons.mp hprefix).1

theorem replace_singleton (a : α) (new as : List α) :
    replace [a] new as = as.flatMap fun b => if a == b then new else [b] := by
  induction as with
  | nil => rfl
  | cons b as ih =>
    rw [List.flatMap_cons]
    by_cases h : a = b
    · subst h
      rw [if_pos (beq_self_eq_true a), ← ih]
      have hne : [a] ≠ [] := by simp
      exact replace_append hne new as
    · rw [if_neg (by simpa using h), ← ih]
      refine replace_cons ?_
      intro hprefix
      exact h (List.cons_prefix_cons.mp hprefix).1

theorem replace_of_absent (h : ¬ pattern <:+: as) : replace pattern new as = as := by
  induction as with
  | nil => rfl
  | cons a as ih =>
    rw [List.infix_cons_iff, not_or] at h
    rw [replace_cons h.1, ih h.2]

theorem countP_replace {p : α → Bool} (h : new.countP p < pattern.countP p) (as : List α) :
    (replace pattern new as).countP p ≤ as.countP p ∧
      (pattern <:+: as → (replace pattern new as).countP p < as.countP p) := by
  have hne : pattern ≠ [] := by
    rintro rfl
    simp at h
  induction hlength : as.length using Nat.strongRecOn generalizing as with
  | ind n ih =>
    cases as with
    | nil => simp [hne]
    | cons a as =>
      by_cases hprefix : pattern <+: a :: as
      · obtain ⟨rest, hrest⟩ := hprefix
        have hpos := List.length_pos_iff.mpr hne
        have hlen := congrArg List.length hrest
        rw [List.length_append] at hlen
        have hle := (ih rest.length (by omega) rest rfl).1
        rw [← hrest, replace_append hne, List.countP_append, List.countP_append]
        constructor
        · omega
        · intro _
          omega
      · have htail := ih as.length (by simp [← hlength]) as rfl
        rw [replace_cons hprefix, List.countP_cons, List.countP_cons]
        constructor
        · omega
        · intro hwithin
          have hlt := htail.2 ((List.infix_cons_iff.mp hwithin).resolve_left hprefix)
          omega

theorem flatMap_injective {α β : Type*} {f : α → List β} (hne : ∀ a, f a ≠ [])
    (h : ∀ a b, f a <+: f b → a = b) : Function.Injective fun as : List α => as.flatMap f := by
  intro as
  induction as with
  | nil =>
    intro bs heq
    cases bs with
    | nil => rfl
    | cons b bs => exact absurd (List.append_eq_nil_iff.mp heq.symm).1 (hne b)
  | cons a as ih =>
    intro bs heq
    cases bs with
    | nil => exact absurd (List.append_eq_nil_iff.mp heq).1 (hne a)
    | cons b bs =>
      replace heq : f a ++ as.flatMap f = f b ++ bs.flatMap f := heq
      have hfirst : a = b := by
        cases List.prefix_or_prefix_of_prefix (List.prefix_append (f a) _)
            (heq ▸ List.prefix_append (f b) _) with
        | inl hprefix => exact h a b hprefix
        | inr hprefix => exact (h b a hprefix).symm
      subst hfirst
      rw [ih (List.append_cancel_left heq)]

end Jellyrin
