import Jellyrin.Defs.Data.Slices
import Jellyrin.Defs.Data.Utf8

/-! A text is cut where its image under a map of characters continues with a pattern. -/

namespace Jellyrin

open Slices
open String (utf8Len)

variable (f : Char → Char)

def foldedCut (pattern : List Char) : List Char → Option (List Char × List Char)
  | [] => if pattern = [] then some ([], []) else none
  | c :: cs =>
    if pattern.isPrefixOf ((c :: cs).map f) then some ([], c :: cs)
    else (foldedCut pattern cs).map fun (before, found) => (c :: before, found)

variable {f} {pattern cs before found : List Char}

theorem find_map (hf : ∀ c, (f c).utf8Size = c.utf8Size) (pattern cs : List Char) :
    find pattern (cs.map f) = (foldedCut f pattern cs).map fun split => utf8Len split.1 := by
  induction cs with
  | nil =>
    rw [List.map_nil, find, foldedCut]
    split <;> rfl
  | cons c cs ih =>
    rw [List.map_cons, find, foldedCut, List.map_cons]
    split
    · rfl
    · rw [ih, Option.map_map, Option.map_map]
      congr 1
      funext split
      simp [hf]

theorem foldedCut_eq_some (h : foldedCut f pattern cs = some (before, found)) :
    cs = before ++ found ∧ pattern <+: found.map f := by
  induction cs generalizing before with
  | nil =>
    rw [foldedCut] at h
    split at h
    · rename_i hempty
      cases h
      simp [hempty]
    · cases h
  | cons c cs ih =>
    rw [foldedCut] at h
    split at h
    · rename_i hprefix
      cases h
      exact ⟨rfl, List.isPrefixOf_iff_prefix.mp hprefix⟩
    · obtain ⟨⟨rest, tail⟩, hrest, heq⟩ := Option.map_eq_some_iff.mp h
      cases heq
      obtain ⟨rfl, hpattern⟩ := ih hrest
      exact ⟨rfl, hpattern⟩

theorem exists_of_prefix_map (h : pattern <+: found.map f) :
    ∃ first after, found = first ++ after ∧ first.map f = pattern := by
  obtain ⟨rest, hrest⟩ := h
  obtain ⟨first, after, rfl, hfirst, -⟩ := List.map_eq_append_iff.mp hrest.symm
  exact ⟨first, after, rfl, hfirst⟩

theorem foldedCut_of_prefix (h : pattern <+: cs.map f) : foldedCut f pattern cs = some ([], cs) := by
  cases cs with
  | nil => simpa [foldedCut] using h
  | cons c cs => rw [foldedCut, if_pos (List.isPrefixOf_iff_prefix.mpr h)]

theorem foldedCut_append {c : Char} (h : ∀ b ∈ before, f b ≠ c) (cs : List Char) :
    foldedCut f (c :: pattern) (before ++ cs) =
      (foldedCut f (c :: pattern) cs).map fun (rest, found) => (before ++ rest, found) := by
  induction before with
  | nil => simp
  | cons b before ih =>
    obtain ⟨hb, hbefore⟩ := List.forall_mem_cons.mp h
    have hfront : (c :: pattern).isPrefixOf ((b :: (before ++ cs)).map f) = false := by
      simp [List.isPrefixOf, hb.symm]
    rw [List.cons_append, foldedCut, hfront, ih hbefore, if_neg (by simp), Option.map_map]
    rfl

theorem foldedCut_cons_of_absent {c : Char} (h : ¬ pattern <+: (c :: cs).map f) :
    foldedCut f pattern (c :: cs) =
      (foldedCut f pattern cs).map fun (rest, found) => (c :: rest, found) := by
  rw [foldedCut, if_neg]
  rwa [List.isPrefixOf_iff_prefix]

end Jellyrin
