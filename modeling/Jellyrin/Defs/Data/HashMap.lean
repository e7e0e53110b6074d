import Mathlib.Algebra.BigOperators.Group.List.Basic
import Mathlib.Algebra.GroupWithZero.Nat
import Mathlib.Data.List.AList
import Mathlib.Data.List.Count
import Mathlib.Data.List.Dedup

universe u v

namespace Jellyrin

/-- `std::collections::HashMap`: at most one entry per key, no order that a
result may depend on. -/
abbrev HashMap (K : Type u) (V : Type v) := AList fun _ : K => V

namespace HashMap

variable {K : Type u} {V : Type v} [DecidableEq K]

def size (m : HashMap K V) : Nat := m.keys.length

def isEmpty (m : HashMap K V) : Bool := m.keys.isEmpty

omit [DecidableEq K] in
theorem isEmpty_iff {m : HashMap K V} : m.isEmpty = true ↔ ∀ k, k ∉ m := by
  rw [isEmpty, List.isEmpty_iff, List.eq_nil_iff_forall_not_mem]
  rfl

omit [DecidableEq K] in
theorem isEmpty_eq_false_of_mem {m : HashMap K V} {k : K} (h : k ∈ m) : m.isEmpty = false := by
  cases he : m.isEmpty
  · rfl
  · exact absurd h (isEmpty_iff.mp he k)

omit [DecidableEq K] in
theorem exists_mem_of_isEmpty_eq_false {m : HashMap K V} (h : m.isEmpty = false) :
    ∃ k, k ∈ m := by
  by_contra hnone
  rw [isEmpty_iff.mpr (not_exists.mp hnone)] at h
  cases h

@[simp] theorem isEmpty_insert (m : HashMap K V) (k : K) (v : V) :
    isEmpty (m.insert k v) = false :=
  isEmpty_eq_false_of_mem (k := k) ((AList.mem_insert m).mpr (.inl rfl))

theorem size_insert_of_notMem {m : HashMap K V} {k : K} (v : V) (h : k ∉ m) :
    size (m.insert k v) = m.size + 1 := by
  have hk : k ∉ m.keys := h
  simp [size, List.erase_of_not_mem hk]

theorem size_insert_of_mem {m : HashMap K V} {k : K} (v : V) (h : k ∈ m) :
    size (m.insert k v) = m.size := by
  have hpos : 0 < m.keys.length := List.length_pos_of_mem h
  simp only [size, AList.keys_insert, List.length_cons, List.length_erase_of_mem h]
  omega

theorem size_erase_le (m : HashMap K V) (k : K) : size (m.erase k) ≤ m.size := by
  simp only [size, AList.keys_erase]
  exact List.length_erase_le

theorem size_erase_of_mem {m : HashMap K V} {k : K} (h : k ∈ m) :
    size (m.erase k) + 1 = m.size := by
  have hpos : 0 < m.keys.length := List.length_pos_of_mem h
  simp only [size, AList.keys_erase, List.length_erase_of_mem h]
  omega

theorem size_insert_le (m : HashMap K V) (k : K) (v : V) :
    size (m.insert k v) ≤ m.size + 1 := by
  by_cases h : k ∈ m
  · rw [size_insert_of_mem v h]
    exact Nat.le_succ _
  · rw [size_insert_of_notMem v h]

theorem lookup_insert_eq_some {m : HashMap K V} {k a : K} {v b : V} :
    (m.insert k v).lookup a = some b ↔ a = k ∧ v = b ∨ a ≠ k ∧ m.lookup a = some b := by
  by_cases h : a = k
  · subst h
    simp [AList.lookup_insert]
  · simp [AList.lookup_insert_ne h, h]

theorem lookup_erase_eq_some {m : HashMap K V} {k a : K} {b : V} :
    (m.erase k).lookup a = some b ↔ a ≠ k ∧ m.lookup a = some b := by
  by_cases h : a = k
  · subst h
    simp [AList.lookup_erase]
  · simp [AList.lookup_erase_ne h, h]

def retain (p : K → V → Bool) (m : HashMap K V) : HashMap K V where
  entries := m.entries.filter fun e => p e.1 e.2
  nodupKeys := m.nodupKeys.sublist List.filter_sublist

omit [DecidableEq K] in
theorem size_retain_le (p : K → V → Bool) (m : HashMap K V) : size (retain p m) ≤ m.size :=
  (List.filter_sublist.map _).length_le

theorem lookup_retain {p : K → V → Bool} {m : HashMap K V} {k : K} {v : V} :
    (retain p m).lookup k = some v ↔ m.lookup k = some v ∧ p k v = true := by
  have hlookup : ∀ m : HashMap K V, m.lookup k = some v ↔ ⟨k, v⟩ ∈ m.entries :=
    fun m => AList.mem_lookup_iff
  simp [hlookup, retain]

theorem mem_of_lookup {m : HashMap K V} {k : K} {v : V} (h : m.lookup k = some v) : k ∈ m :=
  AList.lookup_isSome.mp (by rw [h]; rfl)

theorem exists_lookup_of_mem {m : HashMap K V} {k : K} (h : k ∈ m) :
    ∃ v, m.lookup k = some v := Option.isSome_iff_exists.mp (AList.lookup_isSome.mpr h)

omit [DecidableEq K] in
theorem eq_of_size_eq_one {m : HashMap K V} {a b : K} (h : m.size = 1) (ha : a ∈ m) (hb : b ∈ m) :
    a = b := by
  obtain ⟨k, hk⟩ := List.length_eq_one_iff.mp h
  have honly : ∀ c ∈ m, c = k := fun c hc => List.mem_singleton.mp (hk ▸ hc)
  rw [honly a ha, honly b hb]

theorem size_le_of_lookup {m n : HashMap K V}
    (h : ∀ k v, m.lookup k = some v → n.lookup k = some v) : m.size ≤ n.size := by
  apply List.Subperm.length_le
  apply List.subperm_of_subset m.keys_nodup
  intro k hk
  obtain ⟨v, hv⟩ := exists_lookup_of_mem (m := m) hk
  exact mem_of_lookup (h k v hv)

theorem size_eq_of_lookup {m n : HashMap K V}
    (h : ∀ k v, m.lookup k = some v ↔ n.lookup k = some v) : m.size = n.size :=
  Nat.le_antisymm (size_le_of_lookup fun k v => (h k v).mp)
    (size_le_of_lookup fun k v => (h k v).mpr)

def mapValues (f : V → V) (m : HashMap K V) : HashMap K V where
  entries := m.entries.map fun e => ⟨e.1, f e.2⟩
  nodupKeys := by
    have hkeys : (m.entries.map fun e => (⟨e.1, f e.2⟩ : Sigma fun _ : K => V)).keys =
        m.entries.keys := by simp [List.keys]
    rw [List.NodupKeys, hkeys]
    exact m.nodupKeys

def mapEntries (f : K → V → V) (m : HashMap K V) : HashMap K V where
  entries := m.entries.map fun e => ⟨e.1, f e.1 e.2⟩
  nodupKeys := by
    have hkeys : (m.entries.map fun e => (⟨e.1, f e.1 e.2⟩ : Sigma fun _ : K => V)).keys =
        m.entries.keys := by simp [List.keys]
    rw [List.NodupKeys, hkeys]
    exact m.nodupKeys

def eraseAll (ks : List K) (m : HashMap K V) : HashMap K V := ks.foldl (fun m k => m.erase k) m

def any (p : K → V → Bool) (m : HashMap K V) : Bool := m.entries.any fun e => p e.1 e.2

theorem lookup_mapValues (f : V → V) (m : HashMap K V) (k : K) :
    (mapValues f m).lookup k = (m.lookup k).map f := by
  have hlookup : ∀ m : HashMap K V, ∀ v, m.lookup k = some v ↔ ⟨k, v⟩ ∈ m.entries :=
    fun m v => AList.mem_lookup_iff
  apply Option.ext
  intro v
  rw [hlookup, Option.map_eq_some_iff]
  simp [mapValues, hlookup]

theorem lookup_mapEntries (f : K → V → V) (m : HashMap K V) (k : K) :
    (mapEntries f m).lookup k = (m.lookup k).map (f k) := by
  have hlookup : ∀ m : HashMap K V, ∀ v, m.lookup k = some v ↔ ⟨k, v⟩ ∈ m.entries :=
    fun m v => AList.mem_lookup_iff
  apply Option.ext
  intro v
  rw [hlookup, Option.map_eq_some_iff]
  constructor
  · intro hv
    obtain ⟨e, he, heq⟩ := List.mem_map.mp hv
    cases heq
    exact ⟨e.2, (hlookup m _).mpr he, rfl⟩
  · rintro ⟨w, hw, rfl⟩
    exact List.mem_map.mpr ⟨⟨k, w⟩, (hlookup m w).mp hw, rfl⟩

theorem lookup_eraseAll_eq_some {ks : List K} {m : HashMap K V} {a : K} {b : V} :
    (eraseAll ks m).lookup a = some b ↔ a ∉ ks ∧ m.lookup a = some b := by
  induction ks generalizing m with
  | nil => simp [eraseAll]
  | cons k ks ih =>
    have hstep : eraseAll (k :: ks) m = eraseAll ks (m.erase k) := rfl
    rw [hstep, ih, lookup_erase_eq_some, List.mem_cons, not_or]
    constructor
    · exact fun h => ⟨⟨h.2.1, h.1⟩, h.2.2⟩
    · exact fun h => ⟨h.1.2, h.1.1, h.2⟩

def insertAll (entries : List (K × V)) (m : HashMap K V) : HashMap K V :=
  entries.foldl (fun m entry => m.insert entry.1 entry.2) m

theorem insertAll_cons (entry : K × V) (entries : List (K × V)) (m : HashMap K V) :
    insertAll (entry :: entries) m = insertAll entries (m.insert entry.1 entry.2) := rfl

theorem mem_insertAll_iff {entries : List (K × V)} {m : HashMap K V} {k : K} :
    k ∈ insertAll entries m ↔ k ∈ entries.map Prod.fst ∨ k ∈ m := by
  induction entries generalizing m with
  | nil => simp [insertAll]
  | cons entry entries ih =>
    rw [insertAll_cons, ih, AList.mem_insert, List.map_cons, List.mem_cons, or_left_comm, or_assoc]

theorem lookup_insertAll_of_notMem {entries : List (K × V)} {m : HashMap K V} {k : K}
    (h : k ∉ entries.map Prod.fst) : (insertAll entries m).lookup k = m.lookup k := by
  induction entries generalizing m with
  | nil => rfl
  | cons entry entries ih =>
    rw [List.map_cons, List.mem_cons, not_or] at h
    rw [insertAll_cons, ih h.2, AList.lookup_insert_ne h.1]

theorem lookup_insertAll {entries : List (K × V)} {m : HashMap K V}
    (h : (entries.map Prod.fst).Nodup) {entry : K × V} (hentry : entry ∈ entries) :
    (insertAll entries m).lookup entry.1 = some entry.2 := by
  induction entries generalizing m with
  | nil => cases hentry
  | cons other entries ih =>
    rw [List.map_cons, List.nodup_cons] at h
    rw [insertAll_cons]
    cases hentry with
    | head => rw [lookup_insertAll_of_notMem h.1, AList.lookup_insert]
    | tail _ hentry => exact ih h.2 hentry

theorem size_eq_length_iff {m : HashMap K V} {keys : List K} (h : ∀ k, k ∈ m ↔ k ∈ keys) :
    m.size = keys.length ↔ keys.Nodup := by
  have hperm : m.keys.Perm keys.dedup :=
    (List.perm_ext_iff_of_nodup m.keys_nodup keys.nodup_dedup).mpr fun k => by
      rw [List.mem_dedup]
      exact h k
  have hsize : m.size = keys.dedup.length := hperm.length_eq
  rw [hsize]
  constructor
  · intro hlength
    rw [← (List.dedup_sublist keys).eq_of_length hlength]
    exact keys.nodup_dedup
  · intro hnodup
    rw [hnodup.dedup]

theorem any_eq_true {p : K → V → Bool} {m : HashMap K V} :
    any p m = true ↔ ∃ k v, m.lookup k = some v ∧ p k v = true := by
  rw [any, List.any_eq_true]
  constructor
  · rintro ⟨e, he, hp⟩
    exact ⟨e.1, e.2, Option.mem_def.mp (AList.mem_lookup_iff.mpr he), hp⟩
  · rintro ⟨k, v, hv, hp⟩
    exact ⟨⟨k, v⟩, AList.mem_lookup_iff.mp (Option.mem_def.mpr hv), hp⟩

theorem mem_entries_iff {m : HashMap K V} {e : Sigma fun _ : K => V} :
    e ∈ m.entries ↔ m.lookup e.1 = some e.2 :=
  AList.mem_lookup_iff.symm

theorem filter_entries (m : HashMap K V) (k : K) :
    m.entries.filter (fun e => e.1 = k) = (m.lookup k).toList.map (Sigma.mk k) := by
  obtain ⟨entries, hnodup⟩ := m
  rw [AList.lookup]
  induction entries with
  | nil => rfl
  | cons e entries ih =>
    obtain ⟨hnew, hrest⟩ := List.nodupKeys_cons.mp hnodup
    obtain ⟨key, value⟩ := e
    by_cases hkey : key = k
    · subst hkey
      rw [List.dlookup_cons_eq, List.filter_cons_of_pos (by simp), List.filter_eq_nil_iff.mpr]
      · rfl
      · intro other hother
        have hkeys : other.1 ∈ entries.keys := List.mem_keys_of_mem hother
        simpa using fun heq : other.1 = key => hnew (heq ▸ hkeys)
    · rw [List.dlookup_cons_ne _ _ (Ne.symm hkey), List.filter_cons_of_neg (by simp [hkey])]
      exact ih hrest

def weight (f : V → Nat) (m : HashMap K V) : Nat := (m.entries.map fun e => f e.2).sum

theorem weight_insert_of_notMem (f : V → Nat) {m : HashMap K V} {k : K} (v : V) (h : k ∉ m) :
    weight f (m.insert k v) = f v + weight f m := by
  rw [weight, AList.entries_insert_of_notMem h, List.map_cons, List.sum_cons]
  rfl

theorem weight_insert (f : V → Nat) (m : HashMap K V) (k : K) (v : V) :
    weight f (m.insert k v) = f v + weight f (m.erase k) := rfl

theorem weight_erase (f : V → Nat) {m : HashMap K V} {k : K} {v : V}
    (h : m.lookup k = some v) : weight f m = f v + weight f (m.erase k) := by
  have hk : k ∈ m.entries.keys := AList.lookup_isSome.mp (by rw [h]; rfl)
  obtain ⟨b, l₁, l₂, hnot, hentries, herase⟩ := List.exists_of_kerase hk
  have hb : b = v := by
    have hmem : b ∈ m.lookup k := AList.mem_lookup_iff.mpr (by simp [hentries])
    rw [h] at hmem
    exact (Option.some.inj hmem).symm
  have hrest : (m.erase k).entries = l₁ ++ l₂ := herase
  simp only [weight, hentries, hrest, List.map_append, List.map_cons, List.sum_append,
    List.sum_cons, hb]
  omega

theorem exists_lookup_of_weight_pos (f : V → Nat) {m : HashMap K V} (h : 0 < weight f m) :
    ∃ k v, m.lookup k = some v ∧ 0 < f v := by
  by_contra hnone
  have hzero : (m.entries.map fun e => f e.2).sum = 0 := by
    apply List.sum_eq_zero
    intro n hn
    obtain ⟨e, he, rfl⟩ := List.mem_map.mp hn
    have hlookup : m.lookup e.1 = some e.2 := Option.mem_def.mp (AList.mem_lookup_iff.mpr he)
    by_contra hpos
    exact hnone ⟨e.1, e.2, hlookup, Nat.pos_of_ne_zero hpos⟩
  exact absurd h (by simp [weight, hzero])

end HashMap

end Jellyrin

/-! Maps whose values carry a reference count, against the list of the keys that
are held: a key has an entry exactly when it is held. -/

namespace Jellyrin

variable {K : Type u} {V : Type v} [DecidableEq K]

structure Counts (count : V → Nat) (m : HashMap K V) (held : List K) : Prop where
  count_eq : ∀ k v, m.lookup k = some v → count v = held.count k
  mem_iff : ∀ k, k ∈ m ↔ k ∈ held

namespace Counts

variable {count : V → Nat} {m : HashMap K V} {held : List K} {k : K} {v v' : V}

theorem empty (count : V → Nat) : Counts count (∅ : HashMap K V) [] where
  count_eq k v h := by cases h
  mem_iff k := by simp

theorem pos (h : Counts count m held) (hv : m.lookup k = some v) : 0 < count v := by
  rw [h.count_eq k v hv, List.count_pos_iff, ← h.mem_iff, ← AList.lookup_isSome, hv]
  rfl

theorem insert_one (h : Counts count m held) (hk : k ∉ m) (hv : count v = 1) :
    Counts count (m.insert k v) (k :: held) where
  count_eq a b hb := by
    obtain ⟨rfl, rfl⟩ | ⟨hne, hb⟩ := HashMap.lookup_insert_eq_some.mp hb
    · have hnot : a ∉ held := fun ha => hk ((h.mem_iff a).mpr ha)
      rw [hv, List.count_cons_self, List.count_eq_zero.mpr hnot]
    · rw [h.count_eq a b hb, List.count_cons_of_ne (Ne.symm hne)]
  mem_iff a := by rw [AList.mem_insert, List.mem_cons, h.mem_iff]

theorem insert_succ (h : Counts count m held) (hk : m.lookup k = some v)
    (hv : count v' = count v + 1) : Counts count (m.insert k v') (k :: held) where
  count_eq a b hb := by
    obtain ⟨rfl, rfl⟩ | ⟨hne, hb⟩ := HashMap.lookup_insert_eq_some.mp hb
    · rw [hv, List.count_cons_self, h.count_eq a v hk]
    · rw [h.count_eq a b hb, List.count_cons_of_ne (Ne.symm hne)]
  mem_iff a := by rw [AList.mem_insert, List.mem_cons, h.mem_iff]

theorem insert_pred (h : Counts count m held) (hk : m.lookup k = some v)
    (hv : count v' = count v - 1) (hpos : 0 < count v') :
    Counts count (m.insert k v') (held.erase k) where
  count_eq a b hb := by
    obtain ⟨rfl, rfl⟩ | ⟨hne, hb⟩ := HashMap.lookup_insert_eq_some.mp hb
    · rw [hv, List.count_erase_self, h.count_eq a v hk]
    · rw [h.count_eq a b hb, List.count_erase_of_ne hne]
  mem_iff a := by
    rw [AList.mem_insert, h.mem_iff]
    by_cases hne : a = k
    · subst hne
      have hcount : 0 < (held.erase a).count a := by
        rw [List.count_erase_self, ← h.count_eq a v hk, ← hv]
        exact hpos
      simpa using List.count_pos_iff.mp hcount
    · rw [List.mem_erase_of_ne hne]
      simp [hne]

theorem erase_last (h : Counts count m held) (hk : m.lookup k = some v) (hv : count v = 1) :
    Counts count (m.erase k) (held.erase k) where
  count_eq a b hb := by
    obtain ⟨hne, hb⟩ := HashMap.lookup_erase_eq_some.mp hb
    rw [h.count_eq a b hb, List.count_erase_of_ne hne]
  mem_iff a := by
    rw [AList.mem_erase, h.mem_iff]
    by_cases hne : a = k
    · subst hne
      have hcount : (held.erase a).count a = 0 := by
        rw [List.count_erase_self, ← h.count_eq a v hk, hv]
      simpa using List.count_eq_zero.mp hcount
    · rw [List.mem_erase_of_ne hne]
      simp [hne]

end Counts

end Jellyrin
