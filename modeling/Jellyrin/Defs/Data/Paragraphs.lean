import Jellyrin.Defs.Data.Text
import Mathlib.Data.List.Chain

/-! Lists that are cut at a sequence, and paragraphs: what stands between doubled separators. -/

universe u

namespace Jellyrin

section Cut

variable {α : Type u} [BEq α]

/-- `split_once` of `str`: what stands before the first occurrence of a sequence, and after it. -/
def cutAt (sep : List α) : List α → Option (List α × List α)
  | [] => if sep.isEmpty then some ([], []) else none
  | a :: as =>
    if sep.isPrefixOf (a :: as) then some ([], (a :: as).drop sep.length)
    else (cutAt sep as).map fun (before, after) => (a :: before, after)

variable [LawfulBEq α]

theorem cutAt_eq_none {sep as : List α} (h : ¬sep <:+: as) : cutAt sep as = none := by
  induction as with
  | nil =>
    rw [cutAt, if_neg]
    intro hempty
    exact h (List.isEmpty_iff.mp hempty ▸ List.infix_refl _)
  | cons a as ih =>
    rw [cutAt, if_neg, ih, Option.map_none]
    · exact fun hwithin => h (hwithin.trans (List.suffix_cons a as).isInfix)
    · exact fun hfront => h (List.isPrefixOf_iff_prefix.mp hfront).isInfix

theorem cutAt_append {c : α} {sep before : List α} (h : c ∉ before) (after : List α) :
    cutAt (c :: sep) (before ++ (c :: sep) ++ after) = some (before, after) := by
  induction before with
  | nil => simp [cutAt]
  | cons b before ih =>
    rw [List.mem_cons, not_or] at h
    obtain ⟨hb, hbefore⟩ := h
    have hfront : (c :: sep).isPrefixOf (b :: (before ++ (c :: sep) ++ after)) = false := by
      simp [List.isPrefixOf, hb]
    rw [List.cons_append, List.cons_append, cutAt, hfront, ih hbefore]
    rfl

theorem cutAt_eq_some {sep as before after : List α} (h : cutAt sep as = some (before, after)) :
    as = before ++ sep ++ after := by
  induction as generalizing before with
  | nil =>
    rw [cutAt] at h
    split at h
    · rename_i hempty
      cases h
      rw [List.isEmpty_iff.mp hempty]
      rfl
    · cases h
  | cons a as ih =>
    rw [cutAt] at h
    split at h
    · rename_i hfront
      cases h
      exact (List.prefix_iff_eq_append.mp (List.isPrefixOf_iff_prefix.mp hfront)).symm
    · obtain ⟨⟨front, back⟩, hcut, heq⟩ := Option.map_eq_some_iff.mp h
      cases heq
      rw [ih hcut]
      rfl

theorem notMem_of_cutAt_eq_none {c : α} {as : List α} (h : cutAt [c] as = none) : c ∉ as := by
  intro hmem
  obtain ⟨before, after, rfl, hbefore⟩ := List.eq_append_cons_of_mem hmem
  have hcut : cutAt [c] (before ++ [c] ++ after) = some (before, after) :=
    cutAt_append hbefore after
  rw [List.append_assoc, List.singleton_append, h] at hcut
  cases hcut

theorem notMem_of_cutAt_eq_some {c : α} {as before after : List α}
    (h : cutAt [c] as = some (before, after)) : c ∉ before := by
  intro hmem
  obtain ⟨front, more, rfl, hfront⟩ := List.eq_append_cons_of_mem hmem
  have hcut : cutAt [c] (front ++ [c] ++ (more ++ [c] ++ after)) =
      some (front, more ++ [c] ++ after) := cutAt_append hfront _
  rw [cutAt_eq_some h] at h
  rw [show front ++ c :: more ++ [c] ++ after = front ++ [c] ++ (more ++ [c] ++ after) by simp,
    hcut] at h
  obtain ⟨heq, -⟩ := Prod.mk.inj (Option.some.inj h)
  exact hfront (heq ▸ hmem)

theorem cutAt_append_of_first {sep before : List α} (hne : sep ≠ [])
    (h : ¬sep <:+: before ++ sep.dropLast) (after : List α) :
    cutAt sep (before ++ sep ++ after) = some (before, after) := by
  induction before with
  | nil =>
    have hfront : sep.isPrefixOf (sep ++ after) = true :=
      List.isPrefixOf_iff_prefix.mpr (List.prefix_append sep after)
    cases sep with
    | nil => exact absurd rfl hne
    | cons a sep =>
      rw [List.nil_append, List.cons_append, cutAt, ← List.cons_append, if_pos hfront,
        List.drop_left]
  | cons b before ih =>
    have hlater : ¬sep <:+: before ++ sep.dropLast := fun hwithin =>
      h (hwithin.trans (List.suffix_cons b _).isInfix)
    have hfront : ¬sep.isPrefixOf (b :: (before ++ sep ++ after)) = true := by
      rw [List.isPrefixOf_iff_prefix]
      intro hprefix
      refine h (List.IsPrefix.isInfix ?_)
      refine List.prefix_of_prefix_length_le hprefix ⟨sep.drop (sep.length - 1) ++ after, ?_⟩ ?_
      · rw [List.dropLast_eq_take, List.append_assoc, ← List.append_assoc (List.take _ sep),
          List.take_append_drop]
        simp
      · rw [List.length_append, List.length_cons, List.length_dropLast]
        omega
    rw [List.cons_append, List.cons_append, cutAt, if_neg hfront, ih hlater]
    rfl

omit [BEq α] [LawfulBEq α] in
theorem infix_of_infix_append {sep as bs : List α} {c : α} (h : c ∉ bs)
    (hwithin : sep ++ [c] <:+: as ++ bs) : sep ++ [c] <:+: as := by
  obtain ⟨front, back, heq⟩ := hwithin
  obtain ⟨more, rfl, -⟩ | ⟨more, hfront, rfl⟩ := List.append_eq_append_iff.mp heq
  · exact ⟨front, more, rfl⟩
  · cases hmore : more.getLast? with
    | none =>
      rw [List.getLast?_eq_none_iff.mp hmore, List.append_nil] at hfront
      exact ⟨front, [], by rw [List.append_nil, hfront]⟩
    | some last =>
      have hlast := congrArg List.getLast? hfront
      rw [← List.append_assoc, List.getLast?_concat, List.getLast?_append, hmore,
        Option.some_or] at hlast
      cases hlast
      exact absurd (List.mem_append_left _ (List.mem_of_getLast? hmore)) h

omit [BEq α] [LawfulBEq α] in
theorem infix_append_cons_iff {pattern as bs : List α} {c : α} (h : c ∉ pattern) :
    pattern <:+: as ++ c :: bs ↔ pattern <:+: as ∨ pattern <:+: bs := by
  constructor
  · rintro ⟨front, back, heq⟩
    rw [List.append_assoc] at heq
    obtain ⟨more, rfl, hrest⟩ | ⟨more, rfl, hrest⟩ := List.append_eq_append_iff.mp heq
    · obtain ⟨rest, rfl, hback⟩ | ⟨rest, hpattern, hback⟩ := List.append_eq_append_iff.mp hrest
      · exact .inl ⟨front, rest, by rw [List.append_assoc]⟩
      · cases rest with
        | nil =>
          rw [List.append_nil] at hpattern
          exact .inl ⟨front, [], by rw [hpattern, List.append_nil]⟩
        | cons d rest =>
          obtain ⟨rfl, -⟩ := List.cons.inj hback
          exact absurd (hpattern ▸ List.mem_append_right _ List.mem_cons_self) h
    · cases more with
      | nil =>
        cases pattern with
        | nil => exact .inr List.nil_infix
        | cons d pattern =>
          obtain ⟨rfl, -⟩ := List.cons.inj hrest
          exact absurd List.mem_cons_self h
      | cons d more =>
        obtain ⟨-, rfl⟩ := List.cons.inj hrest
        exact .inr ⟨more, back, List.append_assoc _ _ _⟩
  · rintro (h | h)
    · exact h.trans (List.prefix_append _ _).isInfix
    · exact h.trans ((List.suffix_cons c bs).trans (List.suffix_append as _)).isInfix

end Cut

section Pair

variable {α : Type u} [DecidableEq α] (a : α)

def splitPair : List α → List (List α)
  | [] => [[]]
  | [b] => [[b]]
  | b :: c :: rest =>
    if b = a ∧ c = a then [] :: splitPair rest
    else (splitPair (c :: rest)).modifyHead (b :: ·)

omit [DecidableEq α] in
def NoPair (as : List α) : Prop := as.IsChain fun b c => ¬(b = a ∧ c = a)

variable {a}

theorem splitPair_ne_nil (as : List α) : splitPair a as ≠ [] := by
  fun_induction splitPair a as with
  | case1 => simp
  | case2 b => simp
  | case3 b c rest hpair ih => simp
  | case4 b c rest hpair ih =>
    cases hsplit : splitPair a (c :: rest) with
    | nil => exact absurd hsplit ih
    | cons first parts => simp

theorem splitPair_append {part : List α} (hpair : NoPair a part) (hlast : part.getLast? ≠ some a)
    (rest : List α) : splitPair a (part ++ a :: a :: rest) = part :: splitPair a rest := by
  induction part with
  | nil => simp [splitPair]
  | cons b part ih =>
    cases part with
    | nil =>
      have hb : b ≠ a := by simpa using hlast
      simp [splitPair, hb]
    | cons c part =>
      obtain ⟨hbc, htail⟩ := List.isChain_cons_cons.mp hpair
      have hrest := ih htail (by simpa using hlast)
      rw [List.cons_append, List.cons_append, splitPair, if_neg hbc, ← List.cons_append, hrest,
        List.modifyHead_cons]

omit [DecidableEq α] in
theorem NoPair.of_within {as part : List α} (h : NoPair a as) (hpart : part <:+: as) :
    NoPair a part := by
  obtain ⟨before, after, rfl⟩ := hpart
  exact h.left_of_append.right_of_append

theorem head_splitPair_prefix {as first : List α} {parts : List (List α)}
    (h : splitPair a as = first :: parts) : first <+: as := by
  induction as generalizing first parts with
  | nil =>
    cases h
    exact List.prefix_refl _
  | cons b as ih =>
    cases as with
    | nil =>
      cases h
      exact List.prefix_refl _
    | cons c as =>
      rw [splitPair] at h
      split at h
      · cases h
        exact List.nil_prefix
      · cases hsplit : splitPair a (c :: as) with
        | nil => exact absurd hsplit (splitPair_ne_nil _)
        | cons head tail =>
          rw [hsplit, List.modifyHead_cons] at h
          cases h
          exact (List.prefix_cons_inj b).mpr (ih hsplit)

theorem noPair_of_mem_splitPair {as part : List α} (h : part ∈ splitPair a as) :
    NoPair a part := by
  fun_induction splitPair a as generalizing part with
  | case1 =>
    cases List.mem_singleton.mp h
    exact List.IsChain.nil
  | case2 b =>
    cases List.mem_singleton.mp h
    exact List.IsChain.singleton b
  | case3 b c rest hpair ih =>
    cases List.mem_cons.mp h with
    | inl heq =>
      cases heq
      exact List.IsChain.nil
    | inr hmem => exact ih hmem
  | case4 b c rest hpair ih =>
    cases hsplit : splitPair a (c :: rest) with
    | nil => exact absurd hsplit (splitPair_ne_nil _)
    | cons first parts =>
      rw [hsplit, List.modifyHead_cons] at h
      rw [hsplit] at ih
      cases List.mem_cons.mp h with
      | inl heq =>
        subst heq
        refine List.isChain_cons.mpr ⟨?_, ih List.mem_cons_self⟩
        intro d hd
        obtain ⟨front, rfl⟩ : ∃ front, first = d :: front := by
          cases first with
          | nil => cases hd
          | cons e front =>
            cases hd
            exact ⟨front, rfl⟩
        obtain ⟨tail, hcons⟩ := head_splitPair_prefix hsplit
        obtain ⟨rfl, -⟩ := List.cons.inj hcons
        exact hpair
      | inr hmem => exact ih (List.mem_cons_of_mem _ hmem)

theorem mem_of_mem_splitPair {as part : List α} (h : part ∈ splitPair a as) {b : α}
    (hb : b ∈ part) : b ∈ as := by
  fun_induction splitPair a as generalizing part with
  | case1 =>
    cases List.mem_singleton.mp h
    exact hb
  | case2 c =>
    cases List.mem_singleton.mp h
    exact hb
  | case3 c d rest hpair ih =>
    cases List.mem_cons.mp h with
    | inl heq =>
      cases heq
      cases hb
    | inr hmem => exact List.mem_cons_of_mem _ (List.mem_cons_of_mem _ (ih hmem hb))
  | case4 c d rest hpair ih =>
    cases hsplit : splitPair a (d :: rest) with
    | nil => exact absurd hsplit (splitPair_ne_nil _)
    | cons first parts =>
      rw [hsplit, List.modifyHead_cons] at h
      rw [hsplit] at ih
      cases List.mem_cons.mp h with
      | inl heq =>
        subst heq
        cases List.mem_cons.mp hb with
        | inl heq => exact heq ▸ List.mem_cons_self
        | inr hmem => exact List.mem_cons_of_mem _ (ih List.mem_cons_self hmem)
      | inr hmem => exact List.mem_cons_of_mem _ (ih (List.mem_cons_of_mem _ hmem) hb)

theorem splitPair_of_noPair {as : List α} (h : NoPair a as) : splitPair a as = [as] := by
  fun_induction splitPair a as with
  | case1 => rfl
  | case2 b => rfl
  | case3 b c rest hpair ih => exact absurd hpair (List.isChain_cons_cons.mp h).1
  | case4 b c rest hpair ih =>
    rw [ih (List.isChain_cons_cons.mp h).2, List.modifyHead_cons]

omit [DecidableEq α] in
theorem noPair_of_notMem {as : List α} (h : a ∉ as) : NoPair a as := by
  induction as with
  | nil => exact List.IsChain.nil
  | cons b as ih =>
    rw [List.mem_cons, not_or] at h
    exact List.isChain_cons.mpr ⟨fun c _ hpair => h.1 hpair.1.symm, ih h.2⟩

omit [DecidableEq α] in
theorem noPair_intercalate {line : List α} {ls : List (List α)}
    (h : ∀ line' ∈ line :: ls, a ∉ line') (hne : ∀ line' ∈ ls, line' ≠ []) :
    NoPair a ([a].intercalate (line :: ls)) := by
  induction ls generalizing line with
  | nil =>
    rw [List.intercalate_singleton]
    exact noPair_of_notMem (h line List.mem_cons_self)
  | cons next ls ih =>
    obtain ⟨hline, hrest⟩ := List.forall_mem_cons.mp h
    obtain ⟨hnext, hls⟩ := List.forall_mem_cons.mp hne
    obtain ⟨first, tail, rfl⟩ := List.exists_cons_of_ne_nil hnext
    have hfirst : first ≠ a := fun heq => hrest _ List.mem_cons_self (heq ▸ List.mem_cons_self)
    have htail : ∃ more, [a].intercalate ((first :: tail) :: ls) = first :: more := by
      cases ls with
      | nil => exact ⟨tail, List.intercalate_singleton⟩
      | cons other ls => exact ⟨_, by rw [List.intercalate_cons_cons, List.cons_append,
          List.cons_append]⟩
    obtain ⟨more, hmore⟩ := htail
    rw [List.intercalate_cons_cons, List.append_assoc, List.singleton_append, NoPair,
      List.isChain_append]
    refine ⟨noPair_of_notMem hline, List.isChain_cons.mpr ⟨?_, ih hrest hls⟩, ?_⟩
    · intro b hb hpair
      rw [hmore] at hb
      exact hfirst (Option.some.inj hb ▸ hpair.2)
    · intro b hb c _ hpair
      exact hline (hpair.1 ▸ List.mem_of_getLast? hb)

omit [DecidableEq α] in
theorem getLast?_intercalate_ne {line : List α} {ls : List (List α)}
    (h : ∀ line' ∈ line :: ls, a ∉ line') (hne : ∀ line' ∈ ls, line' ≠ []) :
    ([a].intercalate (line :: ls)).getLast? ≠ some a := by
  induction ls generalizing line with
  | nil =>
    rw [List.intercalate_singleton]
    exact fun hlast => h line List.mem_cons_self (List.mem_of_getLast? hlast)
  | cons next ls ih =>
    obtain ⟨hnext, hls⟩ := List.forall_mem_cons.mp hne
    have hrest := ih (List.forall_mem_cons.mp h).2 hls
    have hnonempty : [a].intercalate (next :: ls) ≠ [] := by
      cases ls with
      | nil => rwa [List.intercalate_singleton]
      | cons other ls =>
        rw [List.intercalate_cons_cons]
        simp
    rw [List.intercalate_cons_cons, List.getLast?_append_of_ne_nil _ hnonempty]
    exact hrest

theorem splitPair_flatMap (parts : List (List α)) (h : ∀ part ∈ parts, NoPair a part)
    (hlast : ∀ part ∈ parts, part.getLast? ≠ some a) :
    splitPair a (parts.flatMap (· ++ [a, a])) = parts ++ [[]] := by
  induction parts with
  | nil => rfl
  | cons part parts ih =>
    obtain ⟨hpart, hparts⟩ := List.forall_mem_cons.mp h
    obtain ⟨hend, hends⟩ := List.forall_mem_cons.mp hlast
    rw [List.flatMap_cons, List.append_assoc, List.cons_append, List.cons_append, List.nil_append,
      splitPair_append hpart hend, ih hparts hends, List.cons_append]

end Pair

namespace Text

def lines (s : String) : List String :=
  let parts := split '\n' s
  (if parts.getLast? = some "" then parts.dropLast else parts).map fun line =>
    if line.toList.getLast? = some '\r' then String.ofList line.toList.dropLast else line

theorem exists_mem_lines_of_infix {s : String} {c : Char} (hfeed : c ≠ '\n') (hreturn : c ≠ '\r')
    (h : ['\n', c] <:+: s.toList) : ∃ line ∈ lines s, line.toList.head? = some c := by
  obtain ⟨before, after, hs⟩ := h
  obtain ⟨rest, hrest⟩ : ∃ rest, c :: rest ∈ s.toList.splitOn '\n' := by
    obtain ⟨word, words, hwords⟩ := List.exists_cons_of_ne_nil (List.splitOn_ne_nil '\n' after)
    refine ⟨word, ?_⟩
    rw [← hs, List.append_assoc, List.cons_append, List.cons_append, List.nil_append,
      List.splitOn_append_cons_self, List.splitOn_cons_eq_if_modifyHead,
      if_neg (by simpa using hfeed), hwords, List.modifyHead_cons]
    exact List.mem_append_right _ List.mem_cons_self
  have hpart : String.ofList (c :: rest) ∈ split '\n' s := List.mem_map_of_mem hrest
  have hkept : String.ofList (c :: rest) ∈
      if (split '\n' s).getLast? = some "" then (split '\n' s).dropLast else split '\n' s := by
    split
    · rename_i hlast
      rw [← List.dropLast_append_getLast? "" hlast, List.mem_append] at hpart
      refine hpart.resolve_right fun hempty => ?_
      have hlist := congrArg String.toList (List.mem_singleton.mp hempty)
      rw [String.toList_ofList] at hlist
      cases hlist
    · exact hpart
  refine ⟨_, List.mem_map_of_mem hkept, ?_⟩
  split
  · rename_i hend
    rw [String.toList_ofList] at hend ⊢
    rw [String.toList_ofList]
    cases rest with
    | nil => exact absurd (Option.some.inj hend) hreturn
    | cons d rest => rfl
  · rw [String.toList_ofList, List.head?_cons]
def replaceCrlf : List Char → List Char
  | [] => []
  | [c] => [c]
  | c :: d :: rest =>
    if c = '\r' ∧ d = '\n' then '\n' :: replaceCrlf rest else c :: replaceCrlf (d :: rest)

theorem replaceCrlf_eq_self {cs : List Char} (h : '\r' ∉ cs) : replaceCrlf cs = cs := by
  fun_induction replaceCrlf cs with
  | case1 => rfl
  | case2 c => rfl
  | case3 c d rest hpair ih => exact absurd (hpair.1 ▸ List.mem_cons_self) h
  | case4 c d rest hpair ih => rw [ih (fun hmem => h (List.mem_cons_of_mem _ hmem))]

theorem lines_intercalate {ls : List String} (hne : ls ≠ [])
    (h : ∀ line ∈ ls, '\n' ∉ line.toList ∧ '\r' ∉ line.toList) (hlast : ls.getLast? ≠ some "") :
    lines ("\n".intercalate ls) = ls := by
  have hsplit : split '\n' ("\n".intercalate ls) = ls :=
    split_intercalate '\n' (fun line hline => (h line hline).1) hne
  rw [lines, hsplit, if_neg hlast]
  refine (List.map_congr_left fun line hline => ?_).trans (List.map_id _)
  rw [if_neg, id]
  exact fun hr => (h line hline).2 (List.mem_of_getLast? hr)

def terminated (ls : List String) : String := String.join (ls.map (· ++ "\n"))

def OneLine (line : String) : Prop := '\n' ∉ line.toList ∧ '\r' ∉ line.toList

theorem toList_terminated (ls : List String) :
    (terminated ls).toList = ls.flatMap fun line => line.toList ++ ['\n'] := by
  induction ls with
  | nil => rfl
  | cons line ls ih =>
    have hcons : terminated (line :: ls) = line ++ "\n" ++ terminated ls := by
      simp [terminated]
    rw [hcons, String.toList_append, String.toList_append, ih, List.flatMap_cons]
    rfl

theorem terminated_append (ls ls' : List String) :
    terminated (ls ++ ls') = terminated ls ++ terminated ls' := by
  apply String.toList_injective
  rw [String.toList_append, toList_terminated, toList_terminated, toList_terminated,
    List.flatMap_append]

theorem split_terminated {ls : List String} (h : ∀ line ∈ ls, OneLine line) :
    split '\n' (terminated ls) = ls ++ [""] := by
  rw [split, toList_terminated]
  induction ls with
  | nil => rfl
  | cons line ls ih =>
    obtain ⟨hline, hls⟩ := List.forall_mem_cons.mp h
    rw [List.flatMap_cons, List.append_assoc, List.singleton_append,
      List.splitOn_append_cons_self_of_not_mem hline.1, List.map_cons, ih hls,
      String.ofList_toList, List.cons_append]

theorem lines_terminated {ls : List String} (h : ∀ line ∈ ls, OneLine line) :
    lines (terminated ls) = ls := by
  rw [lines, split_terminated h]
  simp only [List.getLast?_append, List.getLast?_singleton, Option.some_or, if_true,
    List.dropLast_concat]
  refine (List.map_congr_left fun line hline => ?_).trans (List.map_id _)
  rw [if_neg, id]
  exact fun hr => (h line hline).2 (List.mem_of_getLast? hr)

end Text

end Jellyrin
