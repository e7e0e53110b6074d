import Mathlib.Data.Finset.Image

/-! Tables of a database as lists of rows, with a unique index. -/

universe u v w

namespace Jellyrin.RowTable

variable {R : Type u} {K : Type v} {I : Type w} [DecidableEq K] [DecidableEq I]

def insert (index : R → I) (row : R) (table : List R) : Option (List R) :=
  if ∃ old ∈ table, index old = index row then none else some (table ++ [row])

def updateWhere (p : R → Bool) (f : R → R) (table : List R) : List R :=
  table.map fun row => if p row then f row else row

def deleteWhere (p : R → Bool) (table : List R) : List R := table.filter fun row => !p row

/-- `INSERT … ON CONFLICT (key) DO UPDATE`. -/
def upsert (key : R → K) (index : R → I) (merge : R → R) (row : R) (table : List R) :
    Option (List R) :=
  if ∃ old ∈ table, key old = key row then
    some (updateWhere (fun old => key old = key row) merge table)
  else insert index row table

variable {index : R → I} {key : R → K} {merge : R → R} {row : R} {table table' : List R}

theorem insert_eq_some_iff :
    insert index row table = some table' ↔
      (∀ old ∈ table, index old ≠ index row) ∧ table' = table ++ [row] := by
  rw [insert]
  by_cases h : ∃ old ∈ table, index old = index row
  · rw [if_pos h]
    refine iff_of_false (by simp) ?_
    rintro ⟨hnone, -⟩
    obtain ⟨old, hold, heq⟩ := h
    exact hnone old hold heq
  · rw [if_neg h, Option.some.injEq, eq_comm (b := table')]
    simp only [not_exists, not_and] at h
    exact (and_iff_right h).symm

theorem upsert_eq_some (h : upsert key index merge row table = some table') :
    (∃ old ∈ table, key old = key row) ∧
        table' = updateWhere (fun old => key old = key row) merge table ∨
      (∀ old ∈ table, index old ≠ index row) ∧ table' = table ++ [row] := by
  rw [upsert] at h
  split at h
  · rename_i hold
    exact .inl ⟨hold, (Option.some.inj h).symm⟩
  · exact .inr (insert_eq_some_iff.mp h)

theorem mem_updateWhere {p : R → Bool} {f : R → R} :
    row ∈ updateWhere p f table ↔
      (∃ old ∈ table, p old = true ∧ f old = row) ∨ row ∈ table ∧ p row = false := by
  rw [updateWhere, List.mem_map]
  constructor
  · rintro ⟨old, hold, rfl⟩
    by_cases hp : p old = true
    · exact .inl ⟨old, hold, hp, by rw [if_pos hp]⟩
    · rw [if_neg hp]
      exact .inr ⟨hold, Bool.eq_false_iff.mpr hp⟩
  · rintro (⟨old, hold, hp, rfl⟩ | ⟨hrow, hp⟩)
    · exact ⟨old, hold, by rw [if_pos hp]⟩
    · exact ⟨row, hrow, by simp [hp]⟩

theorem map_updateWhere {J : Type*} {g : R → J} {p : R → Bool} {f : R → R}
    (h : ∀ old ∈ table, p old = true → g (f old) = g old) :
    (updateWhere p f table).map g = table.map g := by
  rw [updateWhere, List.map_map]
  refine List.map_congr_left fun old hold => ?_
  by_cases hp : p old = true
  · simp [hp, h old hold hp]
  · simp [hp]

theorem forall_updateWhere {P : R → Prop} {p : R → Bool} {f : R → R} (h : ∀ old ∈ table, P old)
    (hf : ∀ old ∈ table, P old → P (f old)) : ∀ row ∈ updateWhere p f table, P row := by
  intro row hrow
  obtain ⟨old, hold, -, rfl⟩ | ⟨hrow, -⟩ := mem_updateWhere.mp hrow
  · exact hf old hold (h old hold)
  · exact h row hrow

theorem forall_upsert {P : R → Prop} (h : upsert key index merge row table = some table')
    (htable : ∀ old ∈ table, P old) (hmerge : ∀ old ∈ table, P old → P (merge old))
    (hrow : P row) : ∀ row ∈ table', P row := by
  obtain ⟨-, rfl⟩ | ⟨-, rfl⟩ := upsert_eq_some h
  · exact forall_updateWhere htable hmerge
  · simpa [or_imp, forall_and] using ⟨htable, hrow⟩

theorem forall_deleteWhere {P : R → Prop} {p : R → Bool} (h : ∀ old ∈ table, P old) :
    ∀ row ∈ deleteWhere p table, P row :=
  fun row hrow => h row (List.mem_of_mem_filter hrow)

theorem mem_deleteWhere {p : R → Bool} :
    row ∈ deleteWhere p table ↔ row ∈ table ∧ p row = false := by
  simp [deleteWhere]

variable (table) in
theorem foldlM_insert (rows : List R) (h : ((table ++ rows).map index).Nodup) :
    rows.foldlM (fun table row => insert index row table) table = some (table ++ rows) := by
  induction rows generalizing table with
  | nil => simp
  | cons row rows ih =>
    have hfresh : ∀ old ∈ table, index old ≠ index row := by
      rw [List.map_append, List.nodup_append] at h
      intro old hold
      exact h.2.2 _ (List.mem_map_of_mem hold) _ (by simp)
    rw [List.foldlM_cons, insert_eq_some_iff.mpr ⟨hfresh, rfl⟩, Option.bind_eq_bind,
      Option.bind_some, ih (table ++ [row]) (by simpa using h)]
    simp

theorem foldlM_insert_eq_some (rows : List R)
    (h : rows.foldlM (fun table row => insert index row table) table = some table')
    (hnodup : (table.map index).Nodup) :
    ((table ++ rows).map index).Nodup ∧ table' = table ++ rows := by
  induction rows generalizing table with
  | nil =>
    obtain rfl := Option.some.inj h
    simpa using hnodup
  | cons row rows ih =>
    rw [List.foldlM_cons] at h
    obtain ⟨next, hnext, h⟩ := Option.bind_eq_some_iff.mp h
    obtain ⟨hfresh, rfl⟩ := insert_eq_some_iff.mp hnext
    have hkept : ((table ++ [row]).map index).Nodup := by
      rw [List.map_append]
      refine List.nodup_append.mpr ⟨hnodup, List.nodup_singleton _, ?_⟩
      intro key hkey other hother
      obtain ⟨old, hold, rfl⟩ := List.mem_map.mp hkey
      rw [List.mem_singleton.mp hother]
      exact hfresh old hold
    simpa using ih h hkept

end Jellyrin.RowTable

/-! Tables of a database as sets of rows that are told apart by a key. -/

namespace Jellyrin.Table

variable {R : Type u} {K : Type v} [DecidableEq R] [DecidableEq K] (key : R → K)

/-- `INSERT … ON CONFLICT (key) DO UPDATE` of whole rows. -/
def upsert (rows table : Finset R) : Finset R :=
  {row ∈ table | key row ∉ rows.image key} ∪ rows

/-- `DELETE … WHERE NOT EXISTS` a row with the same key. -/
def keepKeys (rows table : Finset R) : Finset R := {row ∈ table | key row ∈ rows.image key}

def cascade {S : Type u} (owner : S → K) (table : Finset R) (referring : Finset S) : Finset S :=
  {row ∈ referring | owner row ∈ table.image key}

variable {key} {rows table : Finset R} {row : R}

theorem mem_upsert :
    row ∈ upsert key rows table ↔ (row ∈ table ∧ key row ∉ rows.image key) ∨ row ∈ rows := by
  rw [upsert, Finset.mem_union, Finset.mem_filter]

variable (key rows table) in
theorem upsert_keepKeys : upsert key rows (keepKeys key rows table) = rows := by
  ext row
  rw [mem_upsert, keepKeys, Finset.mem_filter]
  constructor
  · rintro (⟨⟨-, hkept⟩, hother⟩ | hrow)
    · exact absurd hkept hother
    · exact hrow
  · exact .inr

theorem upsert_of_subset (h : table ⊆ rows) : upsert key rows table = rows := by
  ext row
  rw [mem_upsert]
  constructor
  · rintro (⟨hkept, -⟩ | hrow)
    · exact h hkept
    · exact hrow
  · exact .inr

omit [DecidableEq K] in
theorem keepKeys_self_subset : keepKeys (fun row => row) rows table ⊆ rows := by
  intro row hrow
  have hkey := (Finset.mem_filter.mp hrow).2
  rwa [Finset.image_id'] at hkey

variable (rows table) in
theorem upsert_unit (h : rows.Nonempty) : upsert (fun _ => ()) rows table = rows := by
  obtain ⟨first, hfirst⟩ := h
  ext row
  rw [mem_upsert]
  constructor
  · rintro (⟨-, hother⟩ | hrow)
    · exact absurd (Finset.mem_image_of_mem (fun _ => ()) hfirst) hother
    · exact hrow
  · exact .inr

omit [DecidableEq R] in
theorem cascade_subset {S : Type u} (owner : S → K) (referring : Finset S) :
    cascade key owner table referring ⊆ referring := Finset.filter_subset _ _

end Jellyrin.Table
