import Mathlib.Data.String.Basic

/-! Slices of a text between offsets in bytes. -/

namespace Jellyrin

/-- An offset past the end of a text or inside of a character: the program panics. -/
inductive Panic where
  | charBoundary
  deriving DecidableEq

namespace Slices

def splitAtByte : Nat → List Char → Option (List Char × List Char)
  | 0, cs => some ([], cs)
  | _ + 1, [] => none
  | n + 1, c :: cs =>
    if c.utf8Size ≤ n + 1 then
      (splitAtByte (n + 1 - c.utf8Size) cs).map fun (before, after) => (c :: before, after)
    else none

def IsCharBoundary (cs : List Char) (n : Nat) : Prop := (splitAtByte n cs).isSome

instance (cs : List Char) (n : Nat) : Decidable (IsCharBoundary cs n) :=
  inferInstanceAs (Decidable (_ = true))

def sliceFrom (cs : List Char) (start : Nat) : Except Panic (List Char) :=
  match splitAtByte start cs with
  | some (_, after) => .ok after
  | none => .error .charBoundary

def sliceTo (cs : List Char) (finish : Nat) : Except Panic (List Char) :=
  match splitAtByte finish cs with
  | some (before, _) => .ok before
  | none => .error .charBoundary

def sliceRange (cs : List Char) (start finish : Nat) : Except Panic (List Char) := do
  sliceFrom (← sliceTo cs finish) start

def find (pattern : List Char) : List Char → Option Nat
  | [] => if pattern = [] then some 0 else none
  | c :: cs =>
    if pattern.isPrefixOf (c :: cs) then some 0 else (find pattern cs).map (· + c.utf8Size)

open String

theorem splitAtByte_utf8Len (before after : List Char) :
    splitAtByte (utf8Len before) (before ++ after) = some (before, after) := by
  induction before with
  | nil => simp [splitAtByte]
  | cons c before ih =>
    have hpos := c.utf8Size_pos
    obtain ⟨n, hn⟩ : ∃ n, utf8Len (c :: before) = n + 1 :=
      ⟨utf8Len (c :: before) - 1, by rw [utf8Len_cons]; omega⟩
    have hrest : n + 1 - c.utf8Size = utf8Len before := by
      rw [← hn, utf8Len_cons]
      omega
    have hle : c.utf8Size ≤ n + 1 := by
      rw [← hn, utf8Len_cons]
      omega
    rw [hn, List.cons_append, splitAtByte, if_pos hle, hrest, ih]
    rfl

theorem splitAtByte_eq_some {cs before after : List Char} {n : Nat} :
    splitAtByte n cs = some (before, after) ↔ cs = before ++ after ∧ utf8Len before = n := by
  constructor
  · intro h
    induction cs generalizing n before with
    | nil =>
      cases n with
      | zero =>
        cases h
        simp
      | succ n => cases h
    | cons c cs ih =>
      cases n with
      | zero =>
        cases h
        simp
      | succ n =>
        rw [splitAtByte] at h
        split at h
        case isTrue hle =>
          obtain ⟨⟨rest, tail⟩, hrest, heq⟩ := Option.map_eq_some_iff.mp h
          cases heq
          obtain ⟨rfl, hlen⟩ := ih hrest
          refine ⟨rfl, ?_⟩
          rw [utf8Len_cons, hlen]
          omega
        case isFalse hlt => cases h
  · rintro ⟨rfl, rfl⟩
    exact splitAtByte_utf8Len before after

theorem isCharBoundary_iff {cs : List Char} {n : Nat} :
    IsCharBoundary cs n ↔ ∃ before after, cs = before ++ after ∧ utf8Len before = n := by
  rw [IsCharBoundary, Option.isSome_iff_exists]
  constructor
  · rintro ⟨⟨before, after⟩, h⟩
    exact ⟨before, after, splitAtByte_eq_some.mp h⟩
  · rintro ⟨before, after, h⟩
    exact ⟨(before, after), splitAtByte_eq_some.mpr h⟩

section Append

variable (before middle after : List Char)

@[simp] theorem sliceFrom_append :
    sliceFrom (before ++ after) (utf8Len before) = .ok after := by
  rw [sliceFrom, splitAtByte_utf8Len]

@[simp] theorem sliceTo_append : sliceTo (before ++ after) (utf8Len before) = .ok before := by
  rw [sliceTo, splitAtByte_utf8Len]

theorem sliceRange_append :
    sliceRange (before ++ middle ++ after) (utf8Len before) (utf8Len (before ++ middle)) =
      .ok middle := by
  rw [sliceRange, sliceTo_append]
  exact sliceFrom_append before middle

end Append

theorem isCharBoundary_append (before after : List Char) :
    IsCharBoundary (before ++ after) (utf8Len before) :=
  isCharBoundary_iff.mpr ⟨before, after, rfl, rfl⟩

theorem prefix_of_utf8Len_le {before before' after after' : List Char}
    (h : before ++ after = before' ++ after') (hle : utf8Len before ≤ utf8Len before') :
    before <+: before' := by
  cases List.prefix_or_prefix_of_prefix (List.prefix_append before after)
      (h ▸ List.prefix_append before' after') with
  | inl hprefix => exact hprefix
  | inr hprefix =>
    obtain ⟨rest, rfl⟩ := hprefix
    rw [utf8Len_append] at hle
    have hrest : rest = [] := utf8Len_eq_zero.mp (by omega)
    simp [hrest]

theorem sliceTo_eq_ok {cs part : List Char} {finish : Nat} :
    sliceTo cs finish = .ok part ↔ ∃ after, cs = part ++ after ∧ utf8Len part = finish := by
  rw [sliceTo]
  cases h : splitAtByte finish cs with
  | none =>
    constructor
    · rintro ⟨⟩
    · rintro ⟨after, hsplit⟩
      rw [splitAtByte_eq_some.mpr hsplit] at h
      cases h
  | some split =>
    obtain ⟨before, after⟩ := split
    have hsplit := splitAtByte_eq_some.mp h
    constructor
    · rintro ⟨rfl⟩
      exact ⟨after, hsplit⟩
    · rintro ⟨after', hsplit'⟩
      rw [splitAtByte_eq_some.mpr hsplit'] at h
      cases h
      rfl

theorem sliceFrom_eq_ok {cs part : List Char} {start : Nat} :
    sliceFrom cs start = .ok part ↔ ∃ before, cs = before ++ part ∧ utf8Len before = start := by
  rw [sliceFrom]
  cases h : splitAtByte start cs with
  | none =>
    constructor
    · rintro ⟨⟩
    · rintro ⟨before, hsplit⟩
      rw [splitAtByte_eq_some.mpr hsplit] at h
      cases h
  | some split =>
    obtain ⟨before, after⟩ := split
    have hsplit := splitAtByte_eq_some.mp h
    constructor
    · rintro ⟨rfl⟩
      exact ⟨before, hsplit⟩
    · rintro ⟨before', hsplit'⟩
      rw [splitAtByte_eq_some.mpr hsplit'] at h
      cases h
      rfl

theorem utf8Len_of_sliceFrom {cs part : List Char} {start : Nat}
    (h : sliceFrom cs start = .ok part) : start + utf8Len part = utf8Len cs := by
  obtain ⟨before, rfl, rfl⟩ := sliceFrom_eq_ok.mp h
  rw [utf8Len_append]

theorem exists_sliceRange_iff {cs : List Char} {start finish : Nat} (hle : start ≤ finish) :
    (∃ part, sliceRange cs start finish = .ok part) ↔
      IsCharBoundary cs start ∧ IsCharBoundary cs finish := by
  constructor
  case mp =>
    rintro ⟨part, h⟩
    rw [sliceRange] at h
    cases hbefore : sliceTo cs finish with
    | error panic =>
      rw [hbefore] at h
      cases h
    | ok before =>
      obtain ⟨after, rfl, rfl⟩ := sliceTo_eq_ok.mp hbefore
      refine ⟨?_, isCharBoundary_append before after⟩
      rw [hbefore] at h
      simp only [bind, Except.bind, sliceFrom] at h
      split at h
      case h_1 first rest hsplit =>
        obtain ⟨rfl, rfl⟩ := splitAtByte_eq_some.mp hsplit
        rw [List.append_assoc]
        exact isCharBoundary_append first (rest ++ after)
      case h_2 => cases h
  case mpr =>
    rintro ⟨hstart, hfinish⟩
    obtain ⟨first, rest, hfirst, rfl⟩ := isCharBoundary_iff.mp hstart
    obtain ⟨before, after, rfl, rfl⟩ := isCharBoundary_iff.mp hfinish
    obtain ⟨middle, rfl⟩ := prefix_of_utf8Len_le hfirst.symm hle
    exact ⟨middle, sliceRange_append first middle after⟩

theorem sliceRange_eq_error {cs : List Char} {start finish : Nat} (hle : start ≤ finish)
    (h : ¬ (IsCharBoundary cs start ∧ IsCharBoundary cs finish)) :
    sliceRange cs start finish = .error .charBoundary := by
  rw [← exists_sliceRange_iff hle] at h
  cases hslice : sliceRange cs start finish with
  | error panic => rfl
  | ok part => exact absurd ⟨part, hslice⟩ h

theorem isCharBoundary_zero (cs : List Char) : IsCharBoundary cs 0 :=
  isCharBoundary_append [] cs

/-! Characters of one byte. -/

theorem utf8Len_of_ascii {cs : List Char} (h : ∀ c ∈ cs, c.toNat < 128) : utf8Len cs = cs.length := by
  induction cs with
  | nil => rfl
  | cons c cs ih =>
    obtain ⟨hc, hcs⟩ := List.forall_mem_cons.mp h
    have hsize : c.utf8Size = 1 :=
      Char.utf8Size_eq_one_iff.mpr (UInt32.le_iff_toNat_le.mpr (Nat.le_of_lt_succ hc))
    rw [utf8Len_cons, hsize, ih hcs, List.length_cons]

theorem utf8Len_of_isDigit {cs : List Char} (h : ∀ c ∈ cs, c.isDigit = true) :
    utf8Len cs = cs.length := by
  refine utf8Len_of_ascii fun c hc => ?_
  have hrange : 48 ≤ c.toNat ∧ c.toNat ≤ 57 := by
    simpa [Char.isDigit, UInt32.le_iff_toNat_le] using h c hc
  omega

theorem length_le_utf8Len (cs : List Char) : cs.length ≤ utf8Len cs := by
  induction cs with
  | nil => exact Nat.zero_le _
  | cons c cs ih =>
    have hpos := c.utf8Size_pos
    rw [List.length_cons, utf8Len_cons]
    omega

theorem sliceRange_digits {digits : List Char} (h : ∀ c ∈ digits, c.isDigit = true)
    (after : List Char) {start finish : Nat} (hle : start ≤ finish)
    (hlength : finish ≤ digits.length) :
    sliceRange (digits ++ after) start finish = .ok ((digits.take finish).drop start) := by
  have htake : ∀ n ≤ digits.length, utf8Len (digits.take n) = n := by
    intro n hn
    rw [utf8Len_of_isDigit fun c hc => h c (List.mem_of_mem_take hc), List.length_take,
      Nat.min_eq_left hn]
  have hsplit : digits.take finish = digits.take start ++ (digits.take finish).drop start := by
    conv => lhs; rw [← List.take_append_drop start (digits.take finish)]
    rw [List.take_take, Nat.min_eq_left hle]
  have hparts : digits ++ after = digits.take start ++ (digits.take finish).drop start ++
      (digits.drop finish ++ after) := by
    rw [← hsplit, ← List.append_assoc, List.take_append_drop]
  have hslice := sliceRange_append (digits.take start) ((digits.take finish).drop start)
    (digits.drop finish ++ after)
  rwa [← hparts, ← hsplit, htake start (hle.trans hlength), htake finish hlength] at hslice

/-! Occurrences. -/

theorem le_of_find {pattern cs : List Char} {n : Nat} (h : find pattern cs = some n) :
    n + utf8Len pattern ≤ utf8Len cs := by
  induction cs generalizing n with
  | nil =>
    rw [find] at h
    split at h
    · cases h
      simp_all
    · cases h
  | cons c cs ih =>
    rw [find] at h
    split at h
    case isTrue hprefix =>
      cases h
      have hle := utf8Len_le_of_prefix (List.isPrefixOf_iff_prefix.mp hprefix)
      omega
    case isFalse =>
      obtain ⟨m, hm, rfl⟩ := Option.map_eq_some_iff.mp h
      have hle := ih hm
      rw [utf8Len_cons]
      omega

theorem le_of_sliceRange {cs part : List Char} {start finish : Nat}
    (h : sliceRange cs start finish = .ok part) : finish ≤ utf8Len cs := by
  cases hbefore : sliceTo cs finish with
  | error panic =>
    rw [sliceRange, hbefore] at h
    cases h
  | ok before =>
    obtain ⟨after, rfl, rfl⟩ := sliceTo_eq_ok.mp hbefore
    rw [utf8Len_append]
    exact Nat.le_add_right _ _

end Slices

end Jellyrin
