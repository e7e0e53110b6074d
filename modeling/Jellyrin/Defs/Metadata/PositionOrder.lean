import Jellyrin.Defs.Data.Lexicographic
import Jellyrin.Defs.Metadata.QueryFilterProjection

/-! The positions of candidates and the order of their encodings. -/

namespace Jellyrin.Metadata

open Json Text

/-! Encoded positions. -/

theorem toList_encode_cons (part : Nat) (parts : List Nat) :
    (encodeMediaItemQueryFilterPosition (part :: parts)).toList = (zeroPadded 20 part).toList ++
      if parts = [] then [] else '.' :: (encodeMediaItemQueryFilterPosition parts).toList := by
  cases parts with
  | nil => simp [encodeMediaItemQueryFilterPosition]
  | cons next parts =>
    simp only [encodeMediaItemQueryFilterPosition, List.map_cons, String.intercalate_cons_cons,
      String.toList_append]
    simp

theorem ascii_encode {position : List Nat} :
    ∀ c ∈ (encodeMediaItemQueryFilterPosition position).toList, c.toNat < 128 := by
  induction position with
  | nil => simp [encodeMediaItemQueryFilterPosition]
  | cons part parts ih =>
    intro c hc
    rw [toList_encode_cons, List.mem_append] at hc
    cases hc with
    | inl hdigit =>
      have hbound := isDigit_bounds ((isNumeral_zeroPadded 20 part).2 c hdigit)
      exact Nat.lt_of_le_of_lt hbound.2 (by decide)
    | inr hrest =>
      split at hrest
      · cases hrest
      · obtain rfl | hrest := List.mem_cons.mp hrest
        · decide
        · exact ih c hrest

theorem encode_lt_iff {a b : List Nat} (ha : ∀ part ∈ a, part < 10 ^ 20)
    (hb : ∀ part ∈ b, part < 10 ^ 20) : (encodeMediaItemQueryFilterPosition a).toList <
      (encodeMediaItemQueryFilterPosition b).toList ↔ a < b := by
  have hlength : ∀ {n : Nat}, n < 10 ^ 20 → (zeroPadded 20 n).toList.length = 20 :=
    fun hn => length_zeroPadded ((Nat.length_toDigits_le_iff (by decide) (by decide)).mpr hn)
  have hcons : ∀ {part : Nat} (parts : List Nat), part < 10 ^ 20 →
      (encodeMediaItemQueryFilterPosition (part :: parts)).toList ≠ [] := by
    intro part parts hpart hnil
    rw [toList_encode_cons, List.append_eq_nil_iff] at hnil
    have hlen := hlength hpart
    rw [hnil.1] at hlen
    cases hlen
  induction a generalizing b with
  | nil =>
    cases b with
    | nil => simp
    | cons part parts =>
      obtain ⟨c, cs, hcs⟩ := List.exists_cons_of_ne_nil (hcons parts (hb part List.mem_cons_self))
      rw [hcs]
      simp [encodeMediaItemQueryFilterPosition]
  | cons part parts ih =>
    cases b with
    | nil => simp [encodeMediaItemQueryFilterPosition]
    | cons part' parts' =>
      have hpart := ha part List.mem_cons_self
      have hpart' := hb part' List.mem_cons_self
      have hrest : (encodeMediaItemQueryFilterPosition parts).toList <
          (encodeMediaItemQueryFilterPosition parts').toList ↔ parts < parts' :=
        ih (fun n hn => ha n (List.mem_cons_of_mem _ hn))
          fun n hn => hb n (List.mem_cons_of_mem _ hn)
      have htail : (if parts = [] then []
            else '.' :: (encodeMediaItemQueryFilterPosition parts).toList) <
          (if parts' = [] then []
            else '.' :: (encodeMediaItemQueryFilterPosition parts').toList) ↔ parts < parts' := by
        cases parts with
        | nil => cases parts' <;> simp
        | cons _ _ =>
          cases parts' with
          | nil => simp
          | cons _ _ =>
            rw [if_neg (List.cons_ne_nil _ _), if_neg (List.cons_ne_nil _ _),
              List.cons_lt_cons_iff, hrest]
            simp
      rw [toList_encode_cons, toList_encode_cons,
        append_lt_append_iff ((hlength hpart).trans (hlength hpart').symm),
        zeroPadded_lt_iff (by decide) hpart hpart', String.toList_inj, zeroPadded_inj, htail,
        List.cons_lt_cons_iff]

theorem asBytes_encode_lt_iff {a b : List Nat} (ha : ∀ part ∈ a, part < 10 ^ 20)
    (hb : ∀ part ∈ b, part < 10 ^ 20) : asBytes (encodeMediaItemQueryFilterPosition a) <
      asBytes (encodeMediaItemQueryFilterPosition b) ↔ a < b := by
  rw [asBytes_lt_iff ascii_encode ascii_encode, encode_lt_iff ha hb]

/-! Positions in a value. -/

mutual

def ArraysFit : Json → Prop
  | .array items => items.length < 2 ^ 64 ∧ ItemsFit items
  | _ => True

def ItemsFit : List Json → Prop
  | [] => True
  | value :: rest => ArraysFit value ∧ ItemsFit rest

end

variable {floatText : UInt64 → String} {kind : MediaItemQueryFilterValueKind} {sourceKey : String}
  {sourcePriority : Nat} {candidate : MediaItemQueryFilterProjectedValue}

mutual

theorem prefix_of_mem_collect : (value : Json) → {position : List Nat} →
    candidate ∈ collectMetadataCandidates floatText kind sourceKey sourcePriority value position →
    position <+: candidate.position
  | .array items, position, h => by
    rw [collectMetadataCandidates] at h
    obtain ⟨index, -, -, hindex⟩ := prefix_of_mem_collectFrom items h
    exact (List.prefix_append _ _).trans hindex
  | .null, position, h | .bool _, position, h | .number _, position, h | .float _, position, h
  | .string _, position, h | .object _, position, h => by
    rw [collectMetadataCandidates, Option.mem_toList, Option.map_eq_some_iff] at h
    · obtain ⟨displayValue, -, rfl⟩ := h
      exact List.prefix_refl _
    · simp

theorem prefix_of_mem_collectFrom : (items : List Json) → {index : Nat} → {position : List Nat} →
    candidate ∈ collectCandidatesFrom floatText kind sourceKey sourcePriority items index position →
    ∃ i, index ≤ i ∧ i < index + items.length ∧ position ++ [i] <+: candidate.position
  | [], _, _, h => by
    rw [collectCandidatesFrom] at h
    cases h
  | value :: rest, index, position, h => by
    rw [collectCandidatesFrom, List.mem_append] at h
    cases h with
    | inl hvalue => exact ⟨index, Nat.le_refl _, by simp, prefix_of_mem_collect value hvalue⟩
    | inr hrest =>
      obtain ⟨i, hle, hlt, hprefix⟩ := prefix_of_mem_collectFrom rest hrest
      exact ⟨i, by omega, by rw [List.length_cons]; omega, hprefix⟩

end

theorem lt_of_prefix {position p q : List Nat} {i j : Nat} (hp : position ++ [i] <+: p)
    (hq : position ++ [j] <+: q) (hij : i < j) : p < q := by
  obtain ⟨s, rfl⟩ := hp
  obtain ⟨t, rfl⟩ := hq
  rw [List.append_assoc, List.append_assoc]
  exact List.append_left_lt (List.cons_lt_cons_iff.mpr (.inl hij))

mutual

theorem pairwise_collect : (value : Json) → (position : List Nat) →
    (collectMetadataCandidates floatText kind sourceKey sourcePriority value position).Pairwise
      fun c d => c.position < d.position
  | .array items, position => by
    rw [collectMetadataCandidates]
    exact pairwise_collectFrom items 0 position
  | .null, position | .bool _, position | .number _, position | .float _, position
  | .string _, position | .object _, position => by
    rw [collectMetadataCandidates]
    · generalize Option.map _ _ = found
      cases found with
      | none => exact List.Pairwise.nil
      | some candidate => exact List.pairwise_singleton _ _
    · simp

theorem pairwise_collectFrom : (items : List Json) → (index : Nat) → (position : List Nat) →
    (collectCandidatesFrom floatText kind sourceKey sourcePriority items index position).Pairwise
      fun c d => c.position < d.position
  | [], _, _ => by
    rw [collectCandidatesFrom]
    exact List.Pairwise.nil
  | value :: rest, index, position => by
    rw [collectCandidatesFrom, List.pairwise_append]
    refine ⟨pairwise_collect value _, pairwise_collectFrom rest _ position, ?_⟩
    intro c hc d hd
    obtain ⟨i, hi, -, hprefix⟩ := prefix_of_mem_collectFrom rest hd
    exact lt_of_prefix (prefix_of_mem_collect value hc) hprefix hi

end

mutual

theorem lt_of_mem_collect : (value : Json) → {position : List Nat} → ArraysFit value →
    (∀ part ∈ position, part < 2 ^ 64) →
    candidate ∈ collectMetadataCandidates floatText kind sourceKey sourcePriority value position →
    ∀ part ∈ candidate.position, part < 2 ^ 64
  | .array items, position, hfit, hposition, h => by
    rw [collectMetadataCandidates] at h
    rw [ArraysFit] at hfit
    exact lt_of_mem_collectFrom items hfit.2 (by omega) hposition h
  | .null, position, _, hposition, h | .bool _, position, _, hposition, h
  | .number _, position, _, hposition, h | .float _, position, _, hposition, h
  | .string _, position, _, hposition, h | .object _, position, _, hposition, h => by
    rw [collectMetadataCandidates, Option.mem_toList, Option.map_eq_some_iff] at h
    · obtain ⟨displayValue, -, rfl⟩ := h
      exact hposition
    · simp

theorem lt_of_mem_collectFrom : (items : List Json) → {index : Nat} → {position : List Nat} →
    ItemsFit items → index + items.length < 2 ^ 64 → (∀ part ∈ position, part < 2 ^ 64) →
    candidate ∈ collectCandidatesFrom floatText kind sourceKey sourcePriority items index position →
    ∀ part ∈ candidate.position, part < 2 ^ 64
  | [], _, _, _, _, _, h => by
    rw [collectCandidatesFrom] at h
    cases h
  | value :: rest, index, position, hfit, hlength, hposition, h => by
    rw [ItemsFit] at hfit
    rw [List.length_cons] at hlength
    rw [collectCandidatesFrom, List.mem_append] at h
    cases h with
    | inl hvalue =>
      refine lt_of_mem_collect value hfit.1 ?_ hvalue
      intro part hpart
      cases List.mem_append.mp hpart with
      | inl hpart => exact hposition part hpart
      | inr hpart =>
        rw [List.mem_singleton.mp hpart]
        omega
    | inr hrest => exact lt_of_mem_collectFrom rest hfit.2 (by omega) hposition hrest

end

theorem eq_of_perm_of_pairwise {sorted candidates : List MediaItemQueryFilterProjectedValue}
    (hperm : sorted.Perm candidates)
    (hcandidates : candidates.Pairwise fun c d => c.position < d.position)
    (hsorted : sorted.Pairwise fun c d => ¬ d.position < c.position) : sorted = candidates := by
  have hnodup : (candidates.map fun candidate => candidate.position).Nodup := by
    rw [List.Nodup, List.pairwise_map]
    refine hcandidates.imp ?_
    intro c d hlt heq
    exact List.lt_irrefl _ (heq ▸ hlt)
  refine hperm.eq_of_pairwise ?_ hsorted (hcandidates.imp fun hlt => List.lt_asymm hlt)
  intro c d hc hd hcd hdc
  exact List.inj_on_of_nodup_map hnodup (hperm.mem_iff.mp hc) hd
    (List.le_antisymm (List.not_lt.mp hcd) (List.not_lt.mp hdc))

variable (floatText kind sourceKey sourcePriority)

/-- Encoded positions are in the order of the positions, and candidates that are put in that
order are back in the order of the document. -/
theorem encoded_positions_restore_order (value : Json) :
    (∀ a b : List UInt64, asBytes (encodeMediaItemQueryFilterPosition (a.map UInt64.toNat)) <
        asBytes (encodeMediaItemQueryFilterPosition (b.map UInt64.toNat)) ↔ a < b) ∧
      ((collectMetadataCandidates floatText kind sourceKey sourcePriority value []).map
        fun candidate => candidate.position).Pairwise (· < ·) ∧
      (ArraysFit value → ∀ sorted : List MediaItemQueryFilterProjectedValue,
        sorted.Perm (collectMetadataCandidates floatText kind sourceKey sourcePriority value []) →
        sorted.Pairwise (fun c d => asBytes (encodeMediaItemQueryFilterPosition c.position) ≤
          asBytes (encodeMediaItemQueryFilterPosition d.position)) →
        sorted = collectMetadataCandidates floatText kind sourceKey sourcePriority value []) := by
  refine ⟨?_, ?_, ?_⟩
  · intro a b
    have hbound : ∀ a : List UInt64, ∀ part ∈ a.map UInt64.toNat, part < 10 ^ 20 := by
      intro a part hpart
      obtain ⟨n, -, rfl⟩ := List.mem_map.mp hpart
      exact n.toNat_lt.trans (by decide)
    rw [asBytes_encode_lt_iff (hbound a) (hbound b), map_lt_map_iff]
    intro m _ n _
    exact ⟨UInt64.lt_iff_toNat_lt.symm, UInt64.toNat_inj⟩
  · rw [List.pairwise_map]
    exact pairwise_collect value []
  · intro hfit sorted hperm hsorted
    have hbound : ∀ c ∈ collectMetadataCandidates floatText kind sourceKey sourcePriority value [],
        ∀ part ∈ c.position, part < 10 ^ 20 := fun c hc part hpart =>
      (lt_of_mem_collect value hfit (by simp) hc part hpart).trans (by decide)
    have hpairwise : (collectMetadataCandidates floatText kind sourceKey sourcePriority value
        []).Pairwise fun c d => c.position < d.position := pairwise_collect value []
    refine eq_of_perm_of_pairwise hperm hpairwise ?_
    refine hsorted.imp_of_mem fun hc hd hle hlt => hle ?_
    exact (asBytes_encode_lt_iff (hbound _ (hperm.mem_iff.mp hd))
      (hbound _ (hperm.mem_iff.mp hc))).mpr hlt

def nestedNames : Json :=
  .array [.string "a", .array [.string "b", .string "c"], .object [("Name", .string "d")]]

theorem nestedNames_in_order :
    collectMetadataCandidates (fun _ => "") .tags "Tags" 0 nestedNames [] =
      [⟨.tags, "a", "Tags", 0, [0]⟩, ⟨.tags, "b", "Tags", 0, [1, 0]⟩,
        ⟨.tags, "c", "Tags", 0, [1, 1]⟩, ⟨.tags, "d", "Tags", 0, [2]⟩] ∧
      ∀ sorted : List MediaItemQueryFilterProjectedValue,
        sorted.Perm (collectMetadataCandidates (fun _ => "") .tags "Tags" 0 nestedNames []) →
        sorted.Pairwise (fun c d => asBytes (encodeMediaItemQueryFilterPosition c.position) ≤
          asBytes (encodeMediaItemQueryFilterPosition d.position)) →
        sorted = collectMetadataCandidates (fun _ => "") .tags "Tags" 0 nestedNames [] :=
  ⟨by decide, (encoded_positions_restore_order (fun _ => "") .tags "Tags" 0
    nestedNames).2.2 (by simp [nestedNames, ArraysFit, ItemsFit])⟩

end Jellyrin.Metadata
