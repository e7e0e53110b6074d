import Jellyrin.Defs.Data.Fallible
import Jellyrin.Defs.Data.HashMap
import Mathlib.Data.List.MinMax
import Mathlib.Data.List.Sort

universe u v

namespace Jellyrin

theorem argmin_eq_head?_iff {α : Type u} {β : Type v} [LinearOrder β] {f : α → β} {l : List α} :
    l.argmin f = l.head? ↔ ∀ first ∈ l.head?, ∀ a ∈ l, f first ≤ f a := by
  cases l with
  | nil => simp
  | cons first rest =>
    rw [List.head?_cons]
    constructor
    · rintro hmin _ ⟨⟩ a ha
      exact List.le_of_mem_argmin ha hmin
    · intro hle
      rw [List.argmin_cons]
      cases hmin : rest.argmin f with
      | none => rfl
      | some least =>
        have hfirst := hle first rfl least (.tail _ (List.argmin_mem hmin))
        exact if_neg (not_lt.mpr hfirst)

/-- `std::collections::BTreeMap`: its values are read in the order of the keys. -/
abbrev BTreeMap (K : Type u) (V : Type v) := HashMap K V

namespace BTreeMap

variable {K : Type u} {V : Type v} [LinearOrder K]

def orInsert (m : BTreeMap K V) (k : K) (v : V) : BTreeMap K V := if k ∈ m then m else m.insert k v

def values (m : BTreeMap K V) : List V := (m.keys.insertionSort (· ≤ ·)).filterMap m.lookup

def first (m : BTreeMap K V) : Option V := m.keys.min?.bind m.lookup

theorem exists_lookup_of_first {m : BTreeMap K V} {v : V} (h : m.first = some v) :
    ∃ k, m.lookup k = some v := by
  obtain ⟨k, _, hk⟩ := Option.bind_eq_some_iff.mp h
  exact ⟨k, hk⟩

theorem exists_first {m : BTreeMap K V} (h : m.isEmpty = false) : ∃ v, m.first = some v := by
  cases hmin : m.keys.min? with
  | none =>
    rw [HashMap.isEmpty, List.min?_eq_none_iff.mp hmin] at h
    cases h
  | some k =>
    have hk : k ∈ m := List.min?_mem hmin
    obtain ⟨v, hv⟩ := HashMap.exists_lookup_of_mem hk
    exact ⟨v, by rw [first, hmin, Option.bind_some, hv]⟩

theorem mem_values {m : BTreeMap K V} {v : V} : v ∈ m.values ↔ ∃ k, m.lookup k = some v := by
  rw [values, List.mem_filterMap]
  constructor
  · rintro ⟨k, -, hk⟩
    exact ⟨k, hk⟩
  · rintro ⟨k, hk⟩
    exact ⟨k, List.mem_insertionSort (· ≤ ·) |>.mpr (HashMap.mem_of_lookup hk), hk⟩

theorem mem_orInsert {m : BTreeMap K V} {k a : K} {v : V} :
    a ∈ m.orInsert k v ↔ a ∈ m ∨ a = k := by
  rw [orInsert]
  split
  · rename_i hk
    constructor
    · exact .inl
    · rintro (ha | rfl)
      · exact ha
      · exact hk
  · rw [AList.mem_insert, or_comm]

theorem lookup_orInsert {m : BTreeMap K V} {k a : K} {v b : V}
    (h : (m.orInsert k v).lookup a = some b) : m.lookup a = some b ∨ a = k ∧ b = v := by
  rw [orInsert] at h
  split at h
  · exact .inl h
  · obtain ⟨ha, hb⟩ | ⟨-, ha⟩ := HashMap.lookup_insert_eq_some.mp h
    · exact .inr ⟨ha, hb.symm⟩
    · exact .inl ha

theorem lookup_orInsert_eq (m : BTreeMap K V) (k a : K) (v : V) :
    (m.orInsert k v).lookup a = (m.lookup a).or (if k = a then some v else none) := by
  rw [orInsert]
  by_cases hk : k ∈ m
  · rw [if_pos hk]
    obtain ⟨w, hw⟩ := HashMap.exists_lookup_of_mem hk
    by_cases ha : k = a
    · rw [← ha, hw, Option.some_or]
    · rw [if_neg ha, Option.or_none]
  · rw [if_neg hk]
    by_cases ha : k = a
    · rw [← ha, AList.lookup_insert, AList.lookup_eq_none.mpr hk, if_pos rfl, Option.none_or]
    · rw [AList.lookup_insert_ne (Ne.symm ha), if_neg ha, Option.or_none]

/-! Values that are entered under keys of their own. -/

section

variable {key : V → K}

def orInsertAll (key : V → K) (vs : List V) (m : BTreeMap K V) : BTreeMap K V :=
  vs.foldl (fun m v => m.orInsert (key v) v) m

theorem orInsertAll_append (vs ws : List V) (m : BTreeMap K V) :
    orInsertAll key (vs ++ ws) m = orInsertAll key ws (orInsertAll key vs m) :=
  List.foldl_append

theorem lookup_orInsertAll (vs : List V) (m : BTreeMap K V) (k : K) :
    (orInsertAll key vs m).lookup k = (m.lookup k).or (vs.find? fun v => key v = k) := by
  induction vs generalizing m with
  | nil => simp [orInsertAll]
  | cons v vs ih =>
    have hstep : orInsertAll key (v :: vs) m = orInsertAll key vs (m.orInsert (key v) v) := rfl
    rw [hstep, ih, lookup_orInsert_eq, Option.or_assoc, List.find?_cons]
    by_cases hk : key v = k <;> simp [hk]

theorem first_eq_some {m : BTreeMap K V} {k : K} {v : V} (h : m.lookup k = some v)
    (hle : ∀ a ∈ m, k ≤ a) : m.first = some v := by
  have hmin : m.keys.min? = some k := List.min?_eq_some_iff.mpr ⟨HashMap.mem_of_lookup h, hle⟩
  rw [first, hmin, Option.bind_some, h]

theorem head?_values (m : BTreeMap K V) : m.values.head? = m.first := by
  rw [values, List.head?_filterMap]
  cases hkeys : m.keys.insertionSort (· ≤ ·) with
  | nil =>
    have hnil : m.keys = [] := List.eq_nil_of_length_eq_zero (by
      rw [← List.length_insertionSort (· ≤ ·), hkeys, List.length_nil])
    simp [first, hnil]
  | cons k rest =>
    have hmem : ∀ a, a ∈ m ↔ a ∈ k :: rest := fun a => by
      rw [← hkeys, List.mem_insertionSort]
      rfl
    have hsorted : (k :: rest).Pairwise (· ≤ ·) := hkeys ▸ List.pairwise_insertionSort _ _
    obtain ⟨v, hv⟩ := HashMap.exists_lookup_of_mem ((hmem k).mpr List.mem_cons_self)
    rw [List.findSome?_cons, hv]
    refine (first_eq_some hv fun a ha => ?_).symm
    obtain rfl | ha := List.mem_cons.mp ((hmem a).mp ha)
    · exact le_rfl
    · exact (List.pairwise_cons.mp hsorted).1 a ha

theorem find?_of_argmin {vs : List V} {v : V} (h : vs.argmin key = some v) :
    vs.find? (fun w => key w = key v) = some v := by
  induction vs with
  | nil => cases h
  | cons w vs ih =>
    rw [List.argmin_cons] at h
    cases hmin : vs.argmin key with
    | none =>
      rw [hmin] at h
      cases h
      simp
    | some least =>
      rw [hmin] at h
      dsimp only at h
      split at h <;> cases h
      · rename_i hlt
        rw [List.find?_cons_of_neg (by simpa using hlt.ne'), ih hmin]
      · simp

theorem first_orInsertAll (vs : List V) : (orInsertAll key vs ∅).first = vs.argmin key := by
  have hlookup : ∀ k, (orInsertAll key vs ∅).lookup k = vs.find? fun v => key v = k := fun k => by
    rw [lookup_orInsertAll, AList.lookup_empty, Option.none_or]
  cases hmin : vs.argmin key with
  | none =>
    rw [List.argmin_eq_none.mp hmin]
    rfl
  | some v =>
    refine first_eq_some ((hlookup _).trans (find?_of_argmin hmin)) fun a ha => ?_
    obtain ⟨w, hw⟩ := HashMap.exists_lookup_of_mem ha
    rw [hlookup] at hw
    have hkey := List.find?_some hw
    rw [decide_eq_true_eq] at hkey
    rw [← hkey]
    exact List.le_of_mem_argmin (List.mem_of_find?_eq_some hw) hmin

end

end BTreeMap

end Jellyrin

/-! Rows that are gathered under keys. -/

universe w

namespace Jellyrin

variable {α : Type w} {K : Type u} {V : Type v} [LinearOrder K]

def gather (key : α → K) (start : K → V) (add : V → α → V) (rows : List α) : BTreeMap K V :=
  rows.foldl (fun gathered row =>
    gathered.insert (key row) (add ((gathered.lookup (key row)).getD (start (key row))) row)) ∅

variable {key : α → K} {start : K → V} {add : V → α → V}

theorem gather_append_singleton (rows : List α) (row : α) :
    gather key start add (rows ++ [row]) =
      (gather key start add rows).insert (key row)
        (add (((gather key start add rows).lookup (key row)).getD (start (key row))) row) := by
  rw [gather, List.foldl_append]
  rfl

theorem lookup_gather (rows : List α) (k : K) :
    (gather key start add rows).lookup k =
      if (rows.filter (key · = k)).isEmpty then none
      else some ((rows.filter (key · = k)).foldl add (start k)) := by
  induction rows using List.reverseRecOn with
  | nil => rfl
  | append_singleton rows row ih =>
    rw [gather_append_singleton, List.filter_append]
    by_cases hkey : key row = k
    · have hrows : (rows.filter (key · = k) ++ [row]).isEmpty = false := by simp
      rw [hkey, AList.lookup_insert, ih, List.filter_cons_of_pos (by simpa using hkey),
        List.filter_nil, hrows, if_neg Bool.false_ne_true, List.foldl_append]
      cases hempty : (rows.filter (key · = k)).isEmpty with
      | true =>
        rw [List.isEmpty_iff.mp hempty]
        rfl
      | false => rfl
    · rw [AList.lookup_insert_ne (Ne.symm hkey), ih, List.filter_cons_of_neg (by simpa using hkey),
        List.filter_nil, List.append_nil]

section Failing

universe x

variable {ε : Type x} {e : ε} {addM : V → α → Except ε V} {safe : V → α → Bool}

def gatherM (key : α → K) (start : K → V) (add : V → α → Except ε V) (rows : List α) :
    Except ε (BTreeMap K V) :=
  rows.foldlM (fun gathered row =>
    (add ((gathered.lookup (key row)).getD (start (key row))) row).map
      (gathered.insert (key row))) ∅

/-- Every row can be added after those before it. -/
def foldIsSafe (safe : V → α → Bool) (add : V → α → V) : V → List α → Bool
  | _, [] => true
  | v, row :: rows => safe v row && foldIsSafe safe add (add v row) rows

theorem foldIsSafe_append_singleton (v : V) (rows : List α) (row : α) :
    foldIsSafe safe add v (rows ++ [row]) =
      (foldIsSafe safe add v rows && safe (rows.foldl add v) row) := by
  induction rows generalizing v with
  | nil => simp [foldIsSafe]
  | cons first rows ih => rw [List.cons_append, foldIsSafe, foldIsSafe, ih, Bool.and_assoc]; rfl

variable (key start safe add) in
def keyIsSafe (rows : List α) (k : K) : Bool :=
  foldIsSafe safe add (start k) (rows.filter (key · = k))

theorem keyIsSafe_append_singleton (rows : List α) (row : α) (k : K) :
    keyIsSafe key start add safe (rows ++ [row]) k =
      (keyIsSafe key start add safe rows k && (!decide (key row = k) ||
        safe ((rows.filter (key · = k)).foldl add (start k)) row)) := by
  rw [keyIsSafe, keyIsSafe, List.filter_append, List.filter_cons, List.filter_nil]
  by_cases hkey : key row = k
  · rw [if_pos (decide_eq_true hkey), foldIsSafe_append_singleton, decide_eq_true hkey,
      Bool.not_true, Bool.false_or]
  · rw [if_neg (by simpa using hkey), List.append_nil, decide_eq_false hkey, Bool.not_false,
      Bool.true_or, Bool.and_true]

theorem keyIsSafe_of_notMem {rows : List α} {k : K} (h : ∀ row ∈ rows, key row ≠ k) :
    keyIsSafe key start add safe rows k = true := by
  rw [keyIsSafe, List.filter_eq_nil_iff.mpr]
  · rfl
  · exact fun row hrow => by simpa using h row hrow

theorem all_keyIsSafe_append_singleton (rows : List α) (row : α) :
    ((rows ++ [row]).all fun other => keyIsSafe key start add safe (rows ++ [row]) (key other)) =
      ((rows.all fun other => keyIsSafe key start add safe rows (key other)) &&
        safe ((rows.filter (key · = key row)).foldl add (start (key row))) row) := by
  rw [Bool.eq_iff_iff]
  simp only [List.all_append, List.all_cons, List.all_nil, Bool.and_true, Bool.and_eq_true,
    List.all_eq_true, keyIsSafe_append_singleton, decide_true, Bool.not_true, Bool.false_or]
  constructor
  · rintro ⟨hrows, -, hrow⟩
    exact ⟨fun other hother => (hrows other hother).1, hrow⟩
  · rintro ⟨hrows, hrow⟩
    refine ⟨fun other hother => ⟨hrows other hother, ?_⟩, ?_, hrow⟩
    · by_cases hkey : key row = key other
      · rw [← hkey, hrow, Bool.or_true]
      · rw [decide_eq_false hkey]
        rfl
    · by_cases hmem : ∃ other ∈ rows, key other = key row
      · obtain ⟨other, hother, hkey⟩ := hmem
        rw [← hkey]
        exact hrows other hother
      · exact keyIsSafe_of_notMem fun other hother hkey => hmem ⟨other, hother, hkey⟩

theorem gatherM_eq (h : ∀ v row, addM v row = onlyIf e (safe v row) (add v row)) (rows : List α) :
    gatherM key start addM rows =
      onlyIf e (rows.all fun row => keyIsSafe key start add safe rows (key row))
        (gather key start add rows) := by
  induction rows using List.reverseRecOn with
  | nil => rfl
  | append_singleton rows row ih =>
    have hvalue : ((gather key start add rows).lookup (key row)).getD (start (key row)) =
        (rows.filter (key · = key row)).foldl add (start (key row)) := by
      rw [lookup_gather]
      cases hempty : (rows.filter (key · = key row)).isEmpty with
      | true => rw [List.isEmpty_iff.mp hempty]; rfl
      | false => rfl
    have hstep : gatherM key start addM (rows ++ [row]) =
        gatherM key start addM rows >>= fun gathered =>
          (addM ((gathered.lookup (key row)).getD (start (key row))) row).map
            (gathered.insert (key row)) := by
      rw [gatherM, List.foldlM_append]
      simp only [List.foldlM_cons, List.foldlM_nil, bind_pure]
      rfl
    rw [hstep, ih, all_keyIsSafe_append_singleton, gather_append_singleton, hvalue]
    refine onlyIf_bind_onlyIf ?_
    rw [hvalue, h, map_onlyIf]

end Failing

theorem filter_eq_filter_iff {rows : List α} {p q : α → Bool} :
    rows.filter p = rows.filter q ↔ ∀ row ∈ rows, p row = q row := by
  refine ⟨fun h row hrow => ?_, List.filter_congr⟩
  rw [Bool.eq_iff_iff]
  constructor
  · intro hp
    exact (List.mem_filter.mp (h ▸ List.mem_filter.mpr ⟨hrow, hp⟩)).2
  · intro hq
    exact (List.mem_filter.mp (h ▸ List.mem_filter.mpr ⟨hrow, hq⟩)).2

theorem keys_open_iff (rows : List α) (key : α → K) (opens : K → α → Bool) :
    (∀ row ∈ rows, rows.filter (opens (key row)) = rows.filter (key · = key row)) ↔
      (∀ row ∈ rows, opens (key row) row = true) ∧
        ∀ row ∈ rows, ∀ other ∈ rows, key other ≠ key row → opens (key row) other = false := by
  simp only [filter_eq_filter_iff]
  constructor
  · intro h
    refine ⟨fun row hrow => ?_, fun row hrow other hother hne => ?_⟩
    · rw [h row hrow row hrow]
      exact decide_eq_true rfl
    · rw [h row hrow other hother]
      exact decide_eq_false hne
  · rintro ⟨hown, hothers⟩ row hrow other hother
    by_cases hkey : key other = key row
    · rw [decide_eq_true hkey, ← hkey]
      exact hown other hother
    · rw [decide_eq_false hkey]
      exact hothers row hrow other hother hkey

theorem mem_values_gather {rows : List α} {v : V} :
    v ∈ (gather key start add rows).values ↔
      ∃ row ∈ rows, (rows.filter (key · = key row)).foldl add (start (key row)) = v := by
  rw [BTreeMap.mem_values]
  constructor
  · rintro ⟨k, hk⟩
    rw [lookup_gather] at hk
    split at hk
    · cases hk
    · rename_i hrows
      obtain ⟨row, hrow⟩ := List.exists_mem_of_ne_nil _ (fun h => hrows (List.isEmpty_iff.mpr h))
      obtain ⟨hmem, hkey⟩ := List.mem_filter.mp hrow
      refine ⟨row, hmem, ?_⟩
      rw [of_decide_eq_true hkey]
      exact Option.some.inj hk
  · rintro ⟨row, hrow, rfl⟩
    refine ⟨key row, ?_⟩
    have hmem : row ∈ rows.filter (key · = key row) :=
      List.mem_filter.mpr ⟨hrow, decide_eq_true rfl⟩
    rw [lookup_gather, if_neg]
    intro hempty
    rw [List.isEmpty_iff.mp hempty] at hmem
    cases hmem

end Jellyrin
