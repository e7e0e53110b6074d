import Jellyrin.Defs.Data.HashMap
import Mathlib.Algebra.Order.Group.Multiset

/-! Directories: nodes under names, moved and removed one by one, where each step may fail. -/

universe u v w

namespace Jellyrin.Directory

variable {K : Type u} {V : Type v} {β : Type w}

def collect (f : K → V → Multiset β) (files : HashMap K V) : Multiset β :=
  (files.entries.map fun e => f e.1 e.2).sum

variable [DecidableEq K] {f : K → V → Multiset β} {files : HashMap K V} {name : K} {node : V}

theorem collect_insert (f : K → V → Multiset β) (files : HashMap K V) (name : K) (node : V) :
    collect f (files.insert name node) = f name node + collect f (files.erase name) := rfl

theorem collect_erase (f : K → V → Multiset β) (h : files.lookup name = some node) :
    collect f files = f name node + collect f (files.erase name) := by
  have hkey : name ∈ files.entries.keys := AList.lookup_isSome.mp (by rw [h]; rfl)
  obtain ⟨other, before, after, -, hentries, herase⟩ := List.exists_of_kerase hkey
  have hother : other = node := by
    have hmem : other ∈ files.lookup name := AList.mem_lookup_iff.mpr (by simp [hentries])
    rw [h] at hmem
    exact (Option.some.inj hmem).symm
  have hrest : (files.erase name).entries = before ++ after := herase
  rw [collect, collect, hentries, hrest, List.map_append, List.map_cons, List.sum_append,
    List.sum_cons, List.map_append, List.sum_append, hother, add_left_comm]

theorem erase_eq_self (h : files.lookup name = none) : files.erase name = files := by
  apply AList.ext
  exact List.kerase_of_notMem_keys (AList.lookup_eq_none.mp h)

theorem collect_erase_le (f : K → V → Multiset β) (files : HashMap K V) (name : K) :
    collect f (files.erase name) ≤ collect f files := by
  cases h : files.lookup name with
  | none => rw [erase_eq_self h]
  | some node =>
    rw [collect_erase f h]
    exact Multiset.le_add_left _ _

omit [DecidableEq K] in
theorem filter_collect (f : K → V → Multiset β) (p : β → Prop) [DecidablePred p]
    (files : HashMap K V) :
    (collect f files).filter p = collect (fun name node => (f name node).filter p) files := by
  unfold collect
  induction files.entries with
  | nil => simp
  | cons entry entries ih => simp [Multiset.filter_add, ih]

/-! Moves. -/

def rename (succeeds : Bool) (src dst : K) (files : HashMap K V) : Option (HashMap K V) :=
  match files.lookup src with
  | none => none
  | some node => if succeeds then some ((files.erase src).insert dst node) else none

def renameAll (succeeds : Nat → Bool) : Nat → List (K × K) → HashMap K V → Bool × HashMap K V
  | _, [], files => (true, files)
  | count, (src, dst) :: moves, files =>
    match rename (succeeds count) src dst files with
    | none => (false, files)
    | some files => renameAll succeeds (count + 1) moves files

variable {src dst : K} {files' : HashMap K V} {succeeds : Nat → Bool} {count : Nat}
  {moves : List (K × K)}

theorem rename_eq_some {outcome : Bool} :
    rename outcome src dst files = some files' ↔ outcome = true ∧
      ∃ node, files.lookup src = some node ∧ files' = (files.erase src).insert dst node := by
  unfold rename
  cases hsrc : files.lookup src with
  | none => simp
  | some node =>
    cases outcome with
    | false => simp
    | true => simp [eq_comm]

theorem lookup_rename {outcome : Bool} (h : rename outcome src dst files = some files')
    (hne : dst ≠ src) :
    files'.lookup dst = files.lookup src ∧ files'.lookup src = none ∧
      ∀ name, name ≠ src → name ≠ dst → files'.lookup name = files.lookup name := by
  obtain ⟨-, node, hsrc, rfl⟩ := rename_eq_some.mp h
  refine ⟨?_, ?_, ?_⟩
  · rw [AList.lookup_insert, hsrc]
  · rw [AList.lookup_insert_ne hne.symm, AList.lookup_erase]
  · intro name hnameSrc hnameDst
    rw [AList.lookup_insert_ne hnameDst, AList.lookup_erase_ne hnameSrc]

theorem collect_rename_le (f : K → V → Multiset β) {outcome : Bool}
    (h : rename outcome src dst files = some files') (hsrc : files.lookup src = some node) :
    collect f files' + f src node ≤ collect f files + f dst node := by
  obtain ⟨-, other, hother, rfl⟩ := rename_eq_some.mp h
  rw [hsrc] at hother
  cases hother
  rw [collect_insert, collect_erase f hsrc]
  have hle := collect_erase_le f (files.erase src) dst
  calc
    f dst node + collect f ((files.erase src).erase dst) + f src node
      ≤ f dst node + collect f (files.erase src) + f src node := by gcongr
    _ = f src node + collect f (files.erase src) + f dst node := by
      rw [add_right_comm, add_comm (f dst node), add_right_comm]

structure Apart (moves : List (K × K)) : Prop where
  sources : (moves.map Prod.fst).Nodup
  targets : (moves.map Prod.snd).Nodup
  disjoint : ∀ src ∈ moves.map Prod.fst, src ∉ moves.map Prod.snd

omit [DecidableEq K] in
theorem Apart.tail {move : K × K} (h : Apart (move :: moves)) : Apart moves where
  sources := (List.nodup_cons.mp h.sources).2
  targets := (List.nodup_cons.mp h.targets).2
  disjoint src hsrc hdst :=
    h.disjoint src (List.mem_cons_of_mem _ hsrc) (List.mem_cons_of_mem _ hdst)

structure Moved (moves : List (K × K)) (files files' : HashMap K V) : Prop where
  moved : ∀ move ∈ moves, files'.lookup move.2 = files.lookup move.1
  gone : ∀ name ∈ moves.map Prod.fst, files'.lookup name = none
  kept : ∀ name ∉ moves.map Prod.fst, name ∉ moves.map Prod.snd →
    files'.lookup name = files.lookup name

theorem renameAll_cons (succeeds : Nat → Bool) (count : Nat) (src dst : K) (moves : List (K × K))
    (files : HashMap K V) :
    renameAll succeeds count ((src, dst) :: moves) files =
      match rename (succeeds count) src dst files with
      | none => (false, files)
      | some files => renameAll succeeds (count + 1) moves files := rfl

theorem Apart.lookup_rename {outcome : Bool} (h : Apart ((src, dst) :: moves))
    (hrename : rename outcome src dst files = some files') :
    ∀ other ∈ moves.map Prod.fst, files'.lookup other = files.lookup other := by
  have hne : dst ≠ src := by
    rintro rfl
    exact h.disjoint dst List.mem_cons_self List.mem_cons_self
  intro other hother
  refine (Directory.lookup_rename hrename hne).2.2 other ?_ ?_
  · rintro rfl
    exact (List.nodup_cons.mp h.sources).1 hother
  · rintro rfl
    exact h.disjoint other (List.mem_cons_of_mem _ hother) List.mem_cons_self

theorem exists_rename (h : files.lookup src ≠ none) (dst : K) :
    ∃ files', rename true src dst files = some files' := by
  obtain ⟨node, hnode⟩ := Option.ne_none_iff_exists'.mp h
  exact ⟨_, rename_eq_some.mpr ⟨rfl, node, hnode, rfl⟩⟩

theorem renameAll_of_failed (h : succeeds count = false) (hne : moves ≠ [])
    (files : HashMap K V) : renameAll succeeds count moves files = (false, files) := by
  cases moves with
  | nil => exact absurd rfl hne
  | cons move moves =>
    obtain ⟨src, dst⟩ := move
    have hnone : rename (succeeds count) src dst files = none := by
      rw [h, Option.eq_none_iff_forall_ne_some]
      intro files' hrename
      exact nomatch (rename_eq_some.mp hrename).1
    rw [renameAll_cons, hnone]

theorem renameAll_spec (succeeds : Nat → Bool) (count : Nat) (hapart : Apart moves)
    (hpresent : ∀ src ∈ moves.map Prod.fst, files.lookup src ≠ none) :
    ((renameAll succeeds count moves files).1 = true ↔
        ∀ i < moves.length, succeeds (count + i) = true) ∧
      ((renameAll succeeds count moves files).1 = true →
        Moved moves files (renameAll succeeds count moves files).2) := by
  induction moves generalizing count files with
  | nil =>
    refine ⟨by simp [renameAll], fun _ => ?_⟩
    constructor
    case moved => simp
    case gone => simp
    case kept => exact fun _ _ _ => rfl
  | cons move moves ih =>
    obtain ⟨src, dst⟩ := move
    cases houtcome : succeeds count with
    | false =>
      rw [renameAll_of_failed houtcome (List.cons_ne_nil _ _)]
      refine ⟨?_, fun h => nomatch h⟩
      simp only [Bool.false_eq_true, false_iff, not_forall]
      exact ⟨0, Nat.succ_pos _, by simp [houtcome]⟩
    | true =>
      obtain ⟨files', hrename⟩ := exists_rename (hpresent src List.mem_cons_self) dst
      rw [renameAll_cons, houtcome, hrename]
      have hothers := hapart.lookup_rename hrename
      have hne : dst ≠ src := by
        rintro rfl
        exact hapart.disjoint dst List.mem_cons_self List.mem_cons_self
      obtain ⟨hdst, hsrc, hkept⟩ := lookup_rename hrename hne
      obtain ⟨hok, hmoved⟩ := @ih files' (count + 1) hapart.tail (by
        intro other hother
        rw [hothers other hother]
        exact hpresent other (List.mem_cons_of_mem _ hother))
      refine ⟨hok.trans ?_, fun hdone => ?_⟩
      · constructor
        · intro h i hi
          cases i with
          | zero => exact houtcome
          | succ i =>
            have hi := h i (Nat.lt_of_succ_lt_succ hi)
            rwa [Nat.add_right_comm] at hi
        · intro h i hi
          have hi := h (i + 1) (Nat.succ_lt_succ hi)
          rwa [Nat.add_right_comm, Nat.add_assoc]
      · have hrest := hmoved hdone
        have hsrcTargets : src ∉ moves.map Prod.snd := fun hmem =>
          hapart.disjoint src List.mem_cons_self (List.mem_cons_of_mem _ hmem)
        have hsrcSources : src ∉ moves.map Prod.fst := (List.nodup_cons.mp hapart.sources).1
        have hdstTargets : dst ∉ moves.map Prod.snd := (List.nodup_cons.mp hapart.targets).1
        have hdstSources : dst ∉ moves.map Prod.fst := fun hmem =>
          hapart.disjoint dst (List.mem_cons_of_mem _ hmem) List.mem_cons_self
        constructor
        case moved =>
          intro move hmove
          rcases List.mem_cons.mp hmove with rfl | hmove
          · rw [hrest.kept dst hdstSources hdstTargets, hdst]
          · rw [hrest.moved move hmove, hothers _ (List.mem_map_of_mem hmove)]
        case gone =>
          intro name hname
          rcases List.mem_cons.mp hname with rfl | hname
          · exact (hrest.kept _ hsrcSources hsrcTargets).trans hsrc
          · exact hrest.gone name hname
        case kept =>
          intro name hsources htargets
          rw [List.map_cons, List.mem_cons, not_or] at hsources htargets
          rw [hrest.kept name hsources.2 htargets.2, hkept name hsources.1 htargets.1]

theorem card_renameAll_hidden (succeeds : Nat → Bool) (count : Nat) (hapart : Apart moves)
    (hpresent : ∀ src ∈ moves.map Prod.fst, files.lookup src ≠ none)
    (hsources : ∀ move ∈ moves, ∀ node, files.lookup move.1 = some node → 1 ≤ (f move.1 node).card)
    (htargets : ∀ move ∈ moves, ∀ node, (f move.2 node).card = 0) :
    ∃ made, (collect f (renameAll succeeds count moves files).2).card + made ≤
        (collect f files).card ∧
      ((renameAll succeeds count moves files).1 = true → made = moves.length) ∧
      (moves ≠ [] → succeeds count = true → 1 ≤ made) := by
  induction moves generalizing count files with
  | nil => exact ⟨0, le_rfl, fun _ => rfl, fun h => absurd rfl h⟩
  | cons move moves ih =>
    obtain ⟨src, dst⟩ := move
    rw [renameAll_cons]
    cases hrename : rename (succeeds count) src dst files with
    | none =>
      refine ⟨0, le_rfl, ⟨nofun, fun _ houtcome => ?_⟩⟩
      obtain ⟨files', hsome⟩ := exists_rename (hpresent src List.mem_cons_self) dst
      rw [houtcome, hsome] at hrename
      cases hrename
    | some files' =>
      have hothers := hapart.lookup_rename hrename
      obtain ⟨made, hle, hall, -⟩ := @ih files' (count + 1) hapart.tail
        (by
          intro other hother
          rw [hothers other hother]
          exact hpresent other (List.mem_cons_of_mem _ hother))
        (by
          intro move hmove node hnode
          rw [hothers _ (List.mem_map_of_mem hmove)] at hnode
          exact hsources move (List.mem_cons_of_mem _ hmove) node hnode)
        (fun move hmove => htargets move (List.mem_cons_of_mem _ hmove))
      obtain ⟨node, hnode⟩ := Option.ne_none_iff_exists'.mp (hpresent src List.mem_cons_self)
      have hstep := Multiset.card_le_card (collect_rename_le f hrename hnode)
      rw [Multiset.card_add, Multiset.card_add] at hstep
      have hzero : (f dst node).card = 0 := htargets _ List.mem_cons_self node
      have hone : 1 ≤ (f src node).card := hsources _ List.mem_cons_self node hnode
      refine ⟨made + 1, ?_, fun h => ?_, fun _ _ => Nat.succ_pos _⟩
      · dsimp only
        omega
      · rw [hall h, List.length_cons]

theorem card_renameAll_shown (htargets : ∀ move ∈ moves, ∀ node, (f move.2 node).card ≤ 1)
    (hstopped : (renameAll succeeds count moves files).1 = false) :
    ∃ made < moves.length, (collect f (renameAll succeeds count moves files).2).card ≤
      (collect f files).card + made := by
  induction moves generalizing count files with
  | nil => cases hstopped
  | cons move moves ih =>
    obtain ⟨src, dst⟩ := move
    rw [renameAll_cons] at hstopped ⊢
    cases hrename : rename (succeeds count) src dst files with
    | none => exact ⟨0, Nat.succ_pos _, le_rfl⟩
    | some files' =>
      rw [hrename] at hstopped
      obtain ⟨made, hmade, hle⟩ :=
        ih (fun move hmove => htargets move (List.mem_cons_of_mem _ hmove)) hstopped
      obtain ⟨-, node, hnode, -⟩ := rename_eq_some.mp hrename
      have hstep := Multiset.card_le_card (collect_rename_le f hrename hnode)
      rw [Multiset.card_add, Multiset.card_add] at hstep
      have hone : (f dst node).card ≤ 1 := htargets _ List.mem_cons_self node
      refine ⟨made + 1, Nat.succ_lt_succ hmade, ?_⟩
      dsimp only
      omega

/-! Removals. -/

def removeAll (removes : Nat → Bool) : Nat → List K → HashMap K V → Bool × HashMap K V
  | _, [], files => (true, files)
  | count, name :: names, files =>
    if removes count then removeAll removes (count + 1) names (files.erase name)
    else (false, files)

def removedNames (removes : Nat → Bool) : Nat → List K → List K
  | _, [] => []
  | count, name :: names =>
    if removes count then name :: removedNames removes (count + 1) names else []

def held (f : K → V → Multiset β) (names : List K) (files : HashMap K V) : Multiset β :=
  (names.map fun name => ((files.lookup name).map (f name)).getD 0).sum

theorem held_cons (f : K → V → Multiset β) (name : K) (names : List K) (files : HashMap K V) :
    held f (name :: names) files =
      ((files.lookup name).map (f name)).getD 0 + held f names files := by
  rw [held, List.map_cons, List.sum_cons, held]

omit [DecidableEq K] in
theorem removedNames_sublist (removes : Nat → Bool) (count : Nat) (names : List K) :
    (removedNames removes count names).Sublist names := by
  induction names generalizing count with
  | nil => exact List.Sublist.refl _
  | cons name names ih =>
    rw [removedNames]
    split
    · exact (ih _).cons_cons name
    · exact List.nil_sublist _

theorem held_erase (f : K → V → Multiset β) {names : List K} (h : name ∉ names) :
    held f names (files.erase name) = held f names files := by
  unfold held
  congr 1
  refine List.map_congr_left fun other hother => ?_
  rw [AList.lookup_erase_ne]
  rintro rfl
  exact h hother

theorem removeAll_spec (f : K → V → Multiset β) (removes : Nat → Bool) (count : Nat)
    (files : HashMap K V) {names : List K} (hnames : names.Nodup) :
    ((removeAll removes count names files).1 = true ↔ removedNames removes count names = names) ∧
      collect f files = held f (removedNames removes count names) files +
        collect f (removeAll removes count names files).2 ∧
      ((removeAll removes count names files).1 = true →
        ∀ name ∈ names, (removeAll removes count names files).2.lookup name = none) ∧
      ∀ name, files.lookup name = none →
        (removeAll removes count names files).2.lookup name = none := by
  induction names generalizing count files with
  | nil => simp [removeAll, removedNames, held]
  | cons name names ih =>
    rw [List.nodup_cons] at hnames
    obtain ⟨hok, hcollect, hgone, habsent⟩ := ih (count + 1) (files.erase name) hnames.2
    rw [removeAll, removedNames]
    split
    · have hone : collect f files =
          ((files.lookup name).map (f name)).getD 0 + collect f (files.erase name) := by
        cases hlookup : files.lookup name with
        | none => rw [erase_eq_self hlookup, Option.map_none, Option.getD_none, zero_add]
        | some node => rw [collect_erase f hlookup, Option.map_some, Option.getD_some]
      have hnotMem : name ∉ removedNames removes (count + 1) names := fun hmem =>
        hnames.1 ((removedNames_sublist removes _ names).subset hmem)
      refine ⟨?_, ?_, ?_, ?_⟩
      · rw [hok, List.cons.injEq, and_iff_right rfl]
      · rw [held_cons, add_assoc, ← held_erase f hnotMem, ← hcollect, hone]
      · intro hdone other hother
        rcases List.mem_cons.mp hother with rfl | hother
        · exact habsent other (AList.lookup_erase _ _)
        · exact hgone hdone other hother
      · intro other hother
        refine habsent other ?_
        by_cases heq : other = name
        · rw [heq]
          exact AList.lookup_erase _ _
        · rw [AList.lookup_erase_ne heq, hother]
    · simp [held]

end Jellyrin.Directory
