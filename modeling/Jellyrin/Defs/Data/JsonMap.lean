import Jellyrin.Defs.Data.JsonObject

/-! Objects as maps from names to values. -/

namespace Jellyrin.Json

def IsMap (fields : List (String × Json)) : Prop := fields.Pairwise fun a b => a.1 < b.1

instance (fields : List (String × Json)) : Decidable (IsMap fields) :=
  inferInstanceAs (Decidable (List.Pairwise _ _))

variable {fields other : List (String × Json)} {field name : String} {value : Json}

theorem isMap_cons {entry : String × Json} :
    IsMap (entry :: fields) ↔ (∀ next ∈ fields, entry.1 < next.1) ∧ IsMap fields :=
  List.pairwise_cons

theorem get_object_cons (entry : String × Json) :
    (Json.object (entry :: fields)).get name =
      if entry.1 = name then some entry.2 else (Json.object fields).get name := by
  by_cases h : entry.1 = name <;> simp [get, asObject, h]

theorem IsMap.get_eq_some_iff (h : IsMap fields) :
    (Json.object fields).get name = some value ↔ (name, value) ∈ fields := by
  refine ⟨mem_of_get, fun hmem => ?_⟩
  induction fields with
  | nil => cases hmem
  | cons entry fields ih =>
    obtain ⟨hfirst, hrest⟩ := isMap_cons.mp h
    rw [get_object_cons]
    cases hmem with
    | head => rw [if_pos rfl]
    | tail _ hmem => rw [if_neg (hfirst _ hmem).ne, ih hrest hmem]

theorem IsMap.ext (h : IsMap fields) (hother : IsMap other)
    (hget : ∀ name, (Json.object fields).get name = (Json.object other).get name) :
    fields = other := by
  have hnodup : ∀ {fields : List (String × Json)}, IsMap fields → fields.Nodup := by
    intro fields hmap
    exact hmap.imp fun hlt heq => absurd (congrArg Prod.fst heq) hlt.ne
  have hperm : fields.Perm other := by
    refine (List.perm_ext_iff_of_nodup (hnodup h) (hnodup hother)).mpr ?_
    rintro ⟨name, value⟩
    rw [← h.get_eq_some_iff, ← hother.get_eq_some_iff, hget]
  refine hperm.eq_of_pairwise ?_ h hother
  intro a b _ _ hab hba
  exact absurd hab hba.asymm

theorem IsMap.filter (h : IsMap fields) (p : String × Json → Bool) : IsMap (fields.filter p) :=
  h.sublist List.filter_sublist

theorem get_filter (p : String → Bool) :
    (Json.object (fields.filter fun entry => p entry.1)).get name =
      if p name then (Json.object fields).get name else none := by
  induction fields with
  | nil => simp [get, asObject]
  | cons entry fields ih =>
    rw [List.filter_cons, get_object_cons]
    by_cases hname : entry.1 = name
    · subst hname
      split
      · rw [get_object_cons, if_pos rfl, if_pos rfl]
      · rename_i hp
        rw [ih, if_neg hp]
    · rw [if_neg hname]
      split
      · rw [get_object_cons, if_neg hname, ih]
      · exact ih

theorem get_insertField :
    (Json.object (insertField field value fields)).get name =
      if name = field then some value else (Json.object fields).get name := by
  induction fields with
  | nil =>
    rw [insertField, get_object_cons]
    simp [get, asObject, eq_comm]
  | cons entry fields ih =>
    obtain ⟨first, old⟩ := entry
    rw [insertField]
    by_cases hname : name = field
    · subst hname
      rw [if_pos rfl]
      split
      · rw [get_object_cons, if_pos rfl]
      · split
        · rw [get_object_cons, if_pos rfl]
        · rename_i hne _
          rw [get_object_cons, if_neg hne, ih, if_pos rfl]
    · rw [if_neg hname]
      split
      · rename_i heq
        rw [get_object_cons, if_neg (Ne.symm hname), get_object_cons, if_neg (heq ▸ Ne.symm hname)]
      · split
        · rw [get_object_cons, if_neg (Ne.symm hname)]
        · rw [get_object_cons, get_object_cons, ih, if_neg hname]

theorem IsMap.insertField (h : IsMap fields) : IsMap (insertField field value fields) := by
  induction fields with
  | nil => exact List.pairwise_singleton _ _
  | cons entry fields ih =>
    obtain ⟨first, old⟩ := entry
    obtain ⟨hfirst, hrest⟩ := isMap_cons.mp h
    rw [Json.insertField]
    split
    · rename_i heq
      exact isMap_cons.mpr ⟨heq ▸ hfirst, hrest⟩
    · split
      · rename_i hlt
        refine isMap_cons.mpr ⟨?_, h⟩
        intro next hnext
        cases hnext with
        | head => exact hlt
        | tail _ hnext => exact hlt.trans (hfirst next hnext)
      · rename_i hne hnlt
        refine isMap_cons.mpr ⟨?_, ih hrest⟩
        intro next hnext
        obtain rfl | hnext := mem_insertField hnext
        · exact lt_of_le_of_ne (not_lt.mp hnlt) hne
        · exact hfirst next hnext

end Jellyrin.Json
