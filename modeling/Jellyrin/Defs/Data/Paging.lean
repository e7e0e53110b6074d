import Mathlib.Algebra.Group.Nat.Defs
import Mathlib.Data.List.Infix

/-! Pages of one list, and a reader who goes through them. -/

universe u

namespace Jellyrin

structure Vec (α : Type u) where
  items : List α
  length_le : items.length ≤ 2 ^ 63 - 1

structure QueryResult (α : Type u) where
  items : List α
  totalRecordCount : Nat
  startIndex : Nat
  deriving DecidableEq

def slice {α : Type u} (start limit : Nat) (rows : List α) : List α := (rows.drop start).take limit

def chunksUpTo {α : Type u} (size : Nat) : Nat → List α → List (List α)
  | 0, _ => []
  | count + 1, rows =>
    if rows.isEmpty then [] else rows.take size :: chunksUpTo size count (rows.drop size)

def chunks {α : Type u} (size : Nat) (rows : List α) : List (List α) :=
  chunksUpTo size rows.length rows

def saturatingAdd (a b : Nat) : Nat := min (a + b) (2 ^ 64 - 1)

def checkedSub (a b : Nat) : Option Nat := if b ≤ a then some (a - b) else none

variable {α : Type u}

theorem slice_congr {start limit : Nat} {rows rows' : List α}
    (h : rows.take (start + limit) = rows'.take (start + limit)) :
    slice start limit rows = slice start limit rows' := by
  rw [slice, slice, List.take_drop, List.take_drop, h]

/-- Rows from the start on, at most `cap` at a time, and how many there are. -/
def Paged (source : Nat → Nat → List α × Nat) (rows : List α) (cap : Nat) : Prop :=
  ∀ start limit, source start limit = (slice start (min limit cap) rows, rows.length)

/-! Two lists, one behind the other. -/

section Append

variable (first second : List α) (start limit : Nat)

theorem map_slice {β : Type u} (f : α → β) :
    (slice start limit first).map f = slice start limit (first.map f) := by
  rw [slice, slice, List.map_take, List.map_drop]

theorem filterMap_slice {β : Type u} {f : α → Option β} (h : ∀ a ∈ first, (f a).isSome = true) :
    (slice start limit first).filterMap f = slice start limit (first.filterMap f) := by
  have hmap : first.map f = (first.filterMap f).map some := by
    induction first with
    | nil => rfl
    | cons a as ih =>
      obtain ⟨ha, has⟩ := List.forall_mem_cons.mp h
      obtain ⟨b, hb⟩ := Option.isSome_iff_exists.mp ha
      rw [List.map_cons, List.filterMap_cons, hb, List.map_cons, ih has]
  have hid : (slice start limit first).filterMap f =
      ((slice start limit first).map f).filterMap id := by
    rw [List.filterMap_map]
    rfl
  rw [hid, map_slice, hmap, ← map_slice, List.filterMap_map]
  exact List.filterMap_some

theorem length_slice : (slice start limit first).length = min limit (first.length - start) := by
  rw [slice, List.length_take, List.length_drop]

theorem length_slice_le : (slice start limit first).length ≤ limit := List.length_take_le ..

theorem take_slice (k : Nat) :
    (slice start limit first).take k = slice start (min k limit) first := List.take_take

theorem slice_eq_slice {limit' : Nat}
    (h : min limit (first.length - start) = min limit' (first.length - start)) :
    slice start limit first = slice start limit' first := by
  rw [slice, slice, List.take_eq_take_iff, List.length_drop, h]

theorem slice_append_prefix {k : Nat}
    (hk : k ≤ limit - (slice (min start first.length) limit first).length) :
    slice (min start first.length) limit first ++ slice (start - first.length) k second <+:
      (first ++ second).drop start := by
  have hdrop : first.drop (min start first.length) = first.drop start := by
    obtain h | h := Nat.le_total start first.length
    · rw [Nat.min_eq_left h]
    · rw [Nat.min_eq_right h, List.drop_length, List.drop_of_length_le h]
  rw [slice, hdrop] at hk
  rw [slice, slice, hdrop, List.drop_append]
  by_cases hfull : limit ≤ (first.drop start).length
  · rw [List.length_take, Nat.min_eq_left hfull, Nat.sub_self, Nat.le_zero] at hk
    rw [hk, List.take_zero, List.append_nil]
    exact (List.take_prefix ..).trans (List.prefix_append ..)
  · rw [List.take_of_length_le (Nat.le_of_not_le hfull)]
    exact (List.prefix_append_right_inj _).mpr (List.take_prefix ..)

end Append

def readOn (page : Nat → List α) : Nat → Nat → List α
  | 0, _ => []
  | pages + 1, start => page start ++ readOn page pages (start + (page start).length)

variable {page : Nat → List α} {all : List α}

theorem readOn_isStart (h : ∀ start, page start <+: all.drop start) (pages start : Nat) :
    readOn page pages start <+: all.drop start := by
  induction pages generalizing start with
  | zero => exact List.nil_prefix
  | succ pages ih =>
    obtain ⟨rest, hrest⟩ := h start
    have hdrop : all.drop (start + (page start).length) = rest := by
      rw [← List.drop_drop, ← hrest, List.drop_left]
    rw [readOn, ← hrest]
    exact (List.prefix_append_right_inj _).mpr (hdrop ▸ ih _)

theorem readOn_eq (h : ∀ start, page start <+: all.drop start)
    (hne : ∀ start < all.length, page start ≠ []) {pages start : Nat}
    (hpages : all.length ≤ start + pages) : readOn page pages start = all.drop start := by
  induction pages generalizing start with
  | zero =>
    rw [List.drop_of_length_le (by omega)]
    rfl
  | succ pages ih =>
    obtain ⟨rest, hrest⟩ := h start
    have hdrop : all.drop (start + (page start).length) = rest := by
      rw [← List.drop_drop, ← hrest, List.drop_left]
    rw [readOn, ← hrest]
    refine congrArg (page start ++ ·) ?_
    by_cases hstart : start < all.length
    · have hpos := List.length_pos_iff.mpr (hne start hstart)
      rw [ih (by omega), hdrop]
    · have hnil : page start ++ rest = [] := by
        rw [hrest, List.drop_of_length_le (by omega)]
      have hrestNil := (List.append_eq_nil_iff.mp hnil).2
      have hfirst := readOn_isStart h pages (start + (page start).length)
      rw [hdrop, hrestNil] at hfirst
      rw [hrestNil]
      exact List.prefix_nil.mp hfirst

theorem flatten_chunksUpTo {size : Nat} (hsize : 0 < size) {count : Nat} {rows : List α}
    (hcount : rows.length ≤ count) : (chunksUpTo size count rows).flatten = rows := by
  induction count generalizing rows with
  | zero => rw [List.eq_nil_of_length_eq_zero (Nat.le_zero.mp hcount), chunksUpTo, List.flatten_nil]
  | succ count ih =>
    rw [chunksUpTo]
    split
    · rename_i hempty
      rw [List.isEmpty_iff.mp hempty, List.flatten_nil]
    · have hrest : (rows.drop size).length ≤ count := by
        rw [List.length_drop]
        omega
      rw [List.flatten_cons, ih hrest, List.take_append_drop]

theorem flatten_chunks {size : Nat} (hsize : 0 < size) (rows : List α) :
    (chunks size rows).flatten = rows := flatten_chunksUpTo hsize (Nat.le_refl _)

end Jellyrin
