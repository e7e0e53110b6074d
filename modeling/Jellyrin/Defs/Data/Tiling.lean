import Mathlib.Order.Lattice
import Mathlib.Data.List.Basic

/-! Spans that follow one another without a gap. -/

universe u v

namespace Jellyrin

variable {α : Type u} {β : Type v} [LinearOrder β] (start stop : α → β)

/-- From one point to another, each span is not empty and ends where the next one starts. -/
def Tiling : β → List α → β → Prop
  | low, [], high => low = high
  | low, span :: spans, high => start span = low ∧ low < stop span ∧ Tiling (stop span) spans high

namespace Tiling

variable {start stop} {low high : β} {spans : List α}

theorem le (h : Tiling start stop low spans high) : low ≤ high := by
  induction spans generalizing low with
  | nil => exact le_of_eq h
  | cons span spans ih => exact (le_of_lt h.2.1).trans (ih h.2.2)

theorem bounds_of_mem (h : Tiling start stop low spans high) {span : α} (hspan : span ∈ spans) :
    low ≤ start span ∧ start span < stop span ∧ stop span ≤ high := by
  induction spans generalizing low with
  | nil => cases hspan
  | cons first spans ih =>
    obtain ⟨hstart, hlt, hrest⟩ := h
    cases List.mem_cons.mp hspan with
    | inl heq =>
      subst heq
      exact ⟨ge_of_eq hstart, hstart ▸ hlt, hrest.le⟩
    | inr hmem =>
      obtain ⟨hlow, hlt', hhigh⟩ := ih hrest hmem
      exact ⟨(le_of_lt hlt).trans hlow, hlt', hhigh⟩

theorem existsUnique_index (h : Tiling start stop low spans high) {point : β}
    (hlow : low ≤ point) (hhigh : point < high) :
    ∃! i : Nat, ∃ span, spans[i]? = some span ∧ start span ≤ point ∧ point < stop span := by
  induction spans generalizing low with
  | nil =>
    cases h
    exact absurd hhigh (not_lt_of_ge hlow)
  | cons first spans ih =>
    obtain ⟨hstart, hlt, hrest⟩ := h
    by_cases hpoint : point < stop first
    · refine ⟨0, ⟨first, rfl, hstart ▸ hlow, hpoint⟩, ?_⟩
      rintro (_ | i) ⟨span, hspan, hge, -⟩
      · rfl
      · have hbounds := hrest.bounds_of_mem (List.mem_of_getElem? hspan)
        exact absurd (hpoint.trans_le (hbounds.1.trans hge)) (lt_irrefl point)
    · obtain ⟨i, hi, hunique⟩ := ih hrest (le_of_not_gt hpoint)
      refine ⟨i + 1, hi, ?_⟩
      rintro (_ | j) ⟨span, hspan, hge, hbelow⟩
      · cases hspan
        exact absurd hbelow hpoint
      · exact congrArg (· + 1) (hunique j ⟨span, hspan, hge, hbelow⟩)

end Tiling

end Jellyrin
