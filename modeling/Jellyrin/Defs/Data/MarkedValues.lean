import Mathlib.Data.List.Basic
import Mathlib.Data.List.TakeWhile
import Mathlib.Order.Nat

/-! Texts in which a mask takes the place of every value that follows a marker.  A value ends before
the first element that stops it. -/

namespace Jellyrin

universe u

variable {α : Type u}

structure Marker (α : Type u) where
  text : List α
  stops : α → Bool
  filled : text ≠ []

def splitAfter [BEq α] (pattern : List α) : List α → Option (List α × List α)
  | [] => none
  | c :: cs =>
    if pattern.isPrefixOf (c :: cs) then some (pattern, (c :: cs).drop pattern.length)
    else (splitAfter pattern cs).map fun (before, after) => (c :: before, after)

theorem length_of_splitAfter [BEq α] {pattern cs before after : List α} (hfilled : pattern ≠ [])
    (h : splitAfter pattern cs = some (before, after)) : after.length < cs.length := by
  have hpos := List.length_pos_iff.mpr hfilled
  induction cs generalizing before with
  | nil => cases h
  | cons c cs ih =>
    rw [splitAfter] at h
    split at h
    · cases h
      rw [List.length_drop, List.length_cons]
      omega
    · obtain ⟨⟨first, rest⟩, hfound, heq⟩ := Option.map_eq_some_iff.mp h
      cases heq
      exact (ih hfound).trans (Nat.lt_succ_self _)

namespace Marker

def afterValue (k : Marker α) (text : List α) : List α := text.dropWhile fun c => !k.stops c

theorem length_afterValue_le (k : Marker α) (text : List α) :
    (k.afterValue text).length ≤ text.length :=
  (List.dropWhile_sublist _).length_le

inductive Opens (k : Marker α) : List α → Prop
  | value {value : List α} : (∀ c ∈ value, k.stops c = false) → Opens k (k.text ++ value)
  | char {c : α} {cs : List α} : ¬ k.text <+: c :: cs → Opens k cs → Opens k (c :: cs)
  | marked {value cs : List α} {c : α} : (∀ c ∈ value, k.stops c = false) → k.stops c = true →
      Opens k (c :: cs) → Opens k (k.text ++ (value ++ c :: cs))

variable (k : Marker α)

theorem induction {motive : List α → Prop} (nil : motive [])
    (char : ∀ c cs, ¬ k.text <+: c :: cs → motive cs → motive (c :: cs))
    (value : ∀ value, (∀ c ∈ value, k.stops c = false) → motive (k.text ++ value))
    (marked : ∀ value c cs, (∀ c ∈ value, k.stops c = false) → k.stops c = true →
      motive (c :: cs) → motive (k.text ++ (value ++ c :: cs))) (text : List α) :
    motive text := by
  induction hn : text.length using Nat.strongRecOn generalizing text with
  | _ n ih =>
    cases text with
    | nil => exact nil
    | cons c cs =>
      by_cases hprefix : k.text <+: c :: cs
      · obtain ⟨rest, hrest⟩ := hprefix
        have hpos := List.length_pos_iff.mpr k.filled
        have hlength := congrArg List.length hrest
        rw [List.length_append, hn] at hlength
        have hvalue : ∀ c ∈ rest.takeWhile fun c => !k.stops c, k.stops c = false := by
          intro c hc
          simpa using List.mem_takeWhile_imp hc
        rw [← hrest, ← List.takeWhile_append_dropWhile (p := fun c => !k.stops c) (l := rest)]
        cases hafter : rest.dropWhile fun c => !k.stops c with
        | nil =>
          rw [List.append_nil]
          exact value _ hvalue
        | cons d ds =>
          have hle := (List.dropWhile_sublist (fun c => !k.stops c) (l := rest)).length_le
          rw [hafter] at hle
          have hstops : k.stops d = true := by
            have hhead := List.head?_dropWhile_not (fun c => !k.stops c) rest
            rw [hafter] at hhead
            simpa using hhead
          exact marked _ d ds hvalue hstops (ih _ (by omega) _ rfl)
      · exact char c cs hprefix (ih _ (hn ▸ Nat.lt_succ_self _) cs rfl)

theorem afterValue_append {value : List α} (h : ∀ c ∈ value, k.stops c = false)
    (rest : List α) : k.afterValue (value ++ rest) = k.afterValue rest := by
  rw [afterValue, List.dropWhile_append_of_pos fun c hc => by rw [h c hc]; rfl, afterValue]

theorem afterValue_cons {c : α} (h : k.stops c = true) (cs : List α) :
    k.afterValue (c :: cs) = c :: cs := by
  rw [afterValue, List.dropWhile_cons_of_neg (by simp [h])]

/-- No occurrence begins before the last element of one text and goes on in the other. -/
def Apart (k : Marker α) (text rest : List α) : Prop :=
  ∀ first last, first <:+ text → 2 ≤ first.length → last ≠ [] → last <+: rest →
    first ++ last ≠ k.text

variable {k} {text rest : List α}

theorem Apart.of_suffix {part : List α} (h : k.Apart text rest) (hpart : part <:+ text) :
    k.Apart part rest :=
  fun first last hfirst => h first last (hfirst.trans hpart)

theorem Apart.not_prefix (h : k.Apart text rest) (hlength : 2 ≤ text.length)
    (habsent : ¬ k.text <+: text) : ¬ k.text <+: text ++ rest := by
  rintro ⟨after, hafter⟩
  obtain ⟨left, rfl, -⟩ | ⟨last, hlast, hrest⟩ := List.append_eq_append_iff.mp hafter
  · exact habsent (List.prefix_append _ _)
  · rcases eq_or_ne last [] with rfl | hne
    · exact habsent ⟨[], by rw [hlast, List.append_nil, List.append_nil]⟩
    · exact h text last (List.suffix_refl _) hlength hne ⟨after, hrest.symm⟩ hlast.symm

theorem Opens.ne_nil (h : k.Opens text) : text ≠ [] := by
  cases h with
  | value => exact List.append_ne_nil_of_left_ne_nil k.filled _
  | char => exact List.cons_ne_nil _ _
  | marked => exact List.append_ne_nil_of_left_ne_nil k.filled _

theorem opens_append_text (h : ∀ c ∈ k.text, k.stops c = false) (text : List α) :
    k.Opens (text ++ k.text) := by
  induction hwhole : text ++ k.text using k.induction generalizing text with
  | nil => exact absurd (List.append_eq_nil_iff.mp hwhole).2 k.filled
  | char c cs hprefix ih =>
    cases text with
    | nil => exact absurd ⟨[], by rw [List.append_nil]; exact hwhole⟩ hprefix
    | cons d text =>
      rw [List.cons_append, List.cons.injEq] at hwhole
      exact .char hprefix (ih text hwhole.2)
  | value value hvalue => exact .value hvalue
  | marked value c cs hvalue hc ih =>
    refine .marked hvalue hc ?_
    have hparts := hwhole
    rw [← List.append_assoc] at hparts
    obtain ⟨beyond, -, hbeyond⟩ | ⟨left, -, hleft⟩ := List.append_eq_append_iff.mp hparts
    · exact absurd (h c (by rw [hbeyond]; simp)) (by rw [hc]; decide)
    · exact ih left hleft.symm

theorem afterValue_of_head? (h : ∀ c ∈ text.head?, k.stops c = true) :
    k.afterValue text = text := by
  cases text with
  | nil => rfl
  | cons c cs => exact k.afterValue_cons (h c rfl) cs

theorem stops_of_head?_afterValue {c : α} (h : c ∈ (k.afterValue text).head?) :
    k.stops c = true := by
  have hhead := List.head?_dropWhile_not (fun c => !k.stops c) text
  rw [afterValue] at h
  rw [Option.mem_def.mp h] at hhead
  simpa using hhead

def Meets (first second : List α) : Prop := first <+: second ∨ second <+: first

structure Clear (mask : List α) (k : Marker α) : Prop where
  begins : ∀ part, part ≠ [] → part <:+ mask → ¬ Meets k.text part
  ends : ∀ part, part ≠ [] → part <:+ k.text → ¬ Meets part mask
  reads : ∀ c ∈ mask, k.stops c = false

def Masked (mask : List α) (k : Marker α) (text : List α) : Prop :=
  ∃ rest, text = mask ++ rest ∧ ∀ c ∈ rest.head?, k.stops c = true

def IsMasked (mask : List α) (k : Marker α) (text : List α) : Prop :=
  ∀ before after, text = before ++ (k.text ++ after) → k.Masked mask after

variable {mask : List α}

theorem IsMasked.of_suffix (h : k.IsMasked mask text) (hrest : rest <:+ text) :
    k.IsMasked mask rest := by
  obtain ⟨first, rfl⟩ := hrest
  rintro before after rfl
  exact h (first ++ before) after (by rw [List.append_assoc])

theorem eq_mask_of_masked (hclear : k.Clear mask) {value : List α}
    (hvalue : ∀ c ∈ value, k.stops c = false) (hrest : ∀ c ∈ rest.head?, k.stops c = true)
    (h : k.Masked mask (value ++ rest)) : value = mask := by
  obtain ⟨other, hother, hstops⟩ := h
  have hafter : rest = other := by
    calc
      rest = k.afterValue (value ++ rest) := by
        rw [k.afterValue_append hvalue, afterValue_of_head? hrest]
      _ = other := by
        rw [hother, k.afterValue_append hclear.reads, afterValue_of_head? hstops]
  exact List.append_cancel_right (hafter ▸ hother)

theorem occurs_of_append_mask {first last before after : List α} (hclear : k.Clear mask)
    (h : first ++ (mask ++ last) = before ++ (k.text ++ after)) :
    (∃ more, first = before ++ (k.text ++ more) ∧ after = more ++ (mask ++ last)) ∨
      ∃ more, before = first ++ (mask ++ more) ∧ last = more ++ (k.text ++ after) := by
  obtain ⟨beyond, rfl, hbeyond⟩ | ⟨left, rfl, hleft⟩ := List.append_eq_append_iff.mp h
  · right
    obtain ⟨more, rfl, hmore⟩ | ⟨part, hpart, hlast⟩ := List.append_eq_append_iff.mp hbeyond
    · exact ⟨more, rfl, hmore⟩
    · rcases eq_or_ne part [] with rfl | hne
      · rw [List.append_nil] at hpart
        exact ⟨[], by rw [hpart, List.append_nil], hlast.symm⟩
      · exact absurd (List.prefix_or_prefix_of_prefix (List.prefix_append k.text after)
          ⟨last, hlast.symm⟩) (hclear.begins part hne (hpart ▸ List.suffix_append _ _))
  · left
    obtain ⟨more, rfl, hmore⟩ | ⟨part, hpart, hafter⟩ := List.append_eq_append_iff.mp hleft
    · exact ⟨more, rfl, hmore⟩
    · rcases eq_or_ne part [] with rfl | hne
      · rw [List.append_nil] at hpart
        exact ⟨[], by rw [hpart, List.append_nil], hafter.symm⟩
      · exact absurd (List.prefix_or_prefix_of_prefix ⟨after, hafter.symm⟩
          (List.prefix_append mask last)) (hclear.ends part hne (hpart ▸ List.suffix_append _ _))

variable [BEq α]

def redact (mask : List α) (k : Marker α) (text : List α) : List α :=
  match _h : splitAfter k.text text with
  | none => text
  | some (before, after) => before ++ mask ++ k.redact mask (k.afterValue after)
termination_by text.length
decreasing_by exact (k.length_afterValue_le after).trans_lt (length_of_splitAfter k.filled _h)

variable (k) (mask)

@[simp] theorem redact_nil : k.redact mask [] = [] := by
  rw [redact]
  split
  · rfl
  · rename_i h
    cases h

variable [LawfulBEq α]

theorem splitAfter_append {pattern : List α} (h : pattern ≠ []) (rest : List α) :
    splitAfter pattern (pattern ++ rest) = some (pattern, rest) := by
  obtain ⟨c, cs, rfl⟩ := List.exists_cons_of_ne_nil h
  have hprefix : (c :: cs).isPrefixOf (c :: (cs ++ rest)) = true :=
    List.isPrefixOf_iff_prefix.mpr (List.prefix_append (c :: cs) rest)
  rw [List.cons_append, splitAfter, if_pos hprefix, ← List.cons_append, List.drop_left]

theorem splitAfter_cons {pattern : List α} {c : α} {cs : List α} (h : ¬ pattern <+: c :: cs) :
    splitAfter pattern (c :: cs) =
      (splitAfter pattern cs).map fun (before, after) => (c :: before, after) := by
  rw [splitAfter, if_neg (by rwa [List.isPrefixOf_iff_prefix])]

theorem redact_append (rest : List α) :
    k.redact mask (k.text ++ rest) = k.text ++ (mask ++ k.redact mask (k.afterValue rest)) := by
  rw [redact]
  split
  · rename_i h
    cases h.symm.trans (splitAfter_append k.filled rest)
  · rename_i before after h
    cases h.symm.trans (splitAfter_append k.filled rest)
    rw [List.append_assoc]

theorem redact_cons {c : α} {cs : List α} (h : ¬ k.text <+: c :: cs) :
    k.redact mask (c :: cs) = c :: k.redact mask cs := by
  have hsplit := splitAfter_cons h
  rw [redact, redact.eq_1 mask k cs]
  split
  · rename_i hnone
    rw [hnone, eq_comm, Option.map_eq_none_iff] at hsplit
    split
    · rfl
    · rename_i hsome
      cases hsplit.symm.trans hsome
  · rename_i before after hsome
    rw [hsome, eq_comm, Option.map_eq_some_iff] at hsplit
    obtain ⟨⟨first, rest⟩, hfound, heq⟩ := hsplit
    cases heq
    split
    · rename_i hnone
      cases hnone.symm.trans hfound
    · rename_i hfound'
      cases hfound.symm.trans hfound'
      rfl

theorem redact_value {value : List α} (h : ∀ c ∈ value, k.stops c = false) :
    k.redact mask (k.text ++ value) = k.text ++ mask := by
  have hafter := k.afterValue_append h []
  rw [List.append_nil] at hafter
  rw [redact_append, hafter, afterValue, List.dropWhile_nil, redact_nil, List.append_nil]

theorem redact_marked {value cs : List α} {c : α} (h : ∀ c ∈ value, k.stops c = false)
    (hc : k.stops c = true) :
    k.redact mask (k.text ++ (value ++ c :: cs)) =
      k.text ++ (mask ++ k.redact mask (c :: cs)) := by
  rw [redact_append, k.afterValue_append h, k.afterValue_cons hc]

theorem head?_redact (text : List α) : (k.redact mask text).head? = text.head? := by
  induction text using k.induction with
  | nil => rw [redact_nil]
  | char c cs h => rw [k.redact_cons mask h, List.head?_cons, List.head?_cons]
  | value value h =>
    obtain ⟨d, ds, hd⟩ := List.exists_cons_of_ne_nil k.filled
    rw [k.redact_value mask h, hd, List.cons_append, List.cons_append, List.head?_cons,
      List.head?_cons]
  | marked value c cs h hc =>
    obtain ⟨d, ds, hd⟩ := List.exists_cons_of_ne_nil k.filled
    rw [k.redact_marked mask h hc, hd, List.cons_append, List.cons_append, List.head?_cons,
      List.head?_cons]

theorem redact_cons_of_head? {c : α} (h : k.text.head? ≠ some c) (cs : List α) :
    k.redact mask (c :: cs) = c :: k.redact mask cs := by
  refine k.redact_cons mask fun hprefix => h ?_
  obtain ⟨d, ds, hd⟩ := List.exists_cons_of_ne_nil k.filled
  rw [hd] at hprefix ⊢
  rw [(List.cons_prefix_cons.mp hprefix).1, List.head?_cons]

theorem redact_cons_cons (hne : k.text.tail ≠ []) {c d : α} (h : k.text.tail.head? ≠ some d)
    (cs : List α) : k.redact mask (c :: d :: cs) = c :: k.redact mask (d :: cs) := by
  refine k.redact_cons mask fun hprefix => h ?_
  obtain ⟨first, last, hmarker⟩ := List.exists_cons_of_ne_nil k.filled
  rw [hmarker, List.tail_cons] at hne ⊢
  obtain ⟨second, more, rfl⟩ := List.exists_cons_of_ne_nil hne
  rw [hmarker] at hprefix
  rw [(List.cons_prefix_cons.mp (List.cons_prefix_cons.mp hprefix).2).1, List.head?_cons]

theorem exists_of_redact_eq_cons {c : α} {cs text : List α} (h : k.redact mask text = c :: cs) :
    ∃ rest, text = c :: rest := by
  have hhead := k.head?_redact mask text
  rw [h, List.head?_cons] at hhead
  exact ⟨text.tail, List.eq_cons_of_mem_head? hhead.symm⟩

theorem redact_eq_cons_iff {c : α} (h : k.text.head? ≠ some c) {text rest : List α} :
    k.redact mask text = c :: rest ↔ ∃ cs, text = c :: cs ∧ rest = k.redact mask cs := by
  constructor
  · intro heq
    obtain ⟨cs, rfl⟩ := k.exists_of_redact_eq_cons mask heq
    rw [k.redact_cons_of_head? mask h, List.cons.injEq] at heq
    exact ⟨cs, rfl, heq.2.symm⟩
  · rintro ⟨cs, rfl, rfl⟩
    exact k.redact_cons_of_head? mask h cs

/-! Two texts, one after the other. -/

variable {k mask} {j : Marker α}

theorem redact_append_of_opens (h : k.Opens text) (hapart : k.Apart text rest) :
    k.redact mask (text ++ rest) = k.redact mask text ++ k.redact mask (k.afterValue rest) := by
  induction h with
  | value hvalue =>
    rw [List.append_assoc, redact_append, k.afterValue_append hvalue, k.redact_value mask hvalue,
      List.append_assoc]
  | @char c cs hprefix hopens ih =>
    have hlength : 2 ≤ (c :: cs).length :=
      Nat.succ_le_succ (List.length_pos_iff.mpr hopens.ne_nil)
    have hlater := hapart.not_prefix hlength hprefix
    rw [List.cons_append] at hlater
    rw [List.cons_append, k.redact_cons mask hlater, k.redact_cons mask hprefix,
      ih (hapart.of_suffix (List.suffix_cons _ _)), List.cons_append]
  | @marked value cs c hvalue hc hopens ih =>
    have hsuffix : c :: cs <:+ k.text ++ (value ++ c :: cs) :=
      (List.suffix_append _ _).trans (List.suffix_append _ _)
    rw [List.append_assoc, List.append_assoc, List.cons_append, k.redact_marked mask hvalue hc,
      k.redact_marked mask hvalue hc, ← List.cons_append, ih (hapart.of_suffix hsuffix)]
    simp only [List.append_assoc]

theorem redact_append_of_not_opens {c : α} (hopens : ¬ k.Opens (text ++ [c]))
    (hapart : k.Apart (text ++ [c]) rest) :
    ∃ kept, k.redact mask (text ++ [c]) = kept ++ [c] ∧
      k.redact mask (text ++ c :: rest) = kept ++ k.redact mask (c :: rest) := by
  induction hwhole : text ++ [c] using k.induction generalizing text with
  | nil => exact absurd hwhole (by simp)
  | char d cs hprefix ih =>
    rw [hwhole] at hopens hapart
    cases text with
    | nil =>
      cases hwhole
      exact ⟨[], by rw [k.redact_cons mask hprefix, redact_nil]; rfl, rfl⟩
    | cons e text =>
      rw [List.cons_append, List.cons.injEq] at hwhole
      obtain ⟨rfl, rfl⟩ := hwhole
      obtain ⟨kept, hkept, hrest⟩ := ih (fun h => hopens (.char hprefix h))
        (hapart.of_suffix (List.suffix_cons _ _)) rfl
      have hlater := hapart.not_prefix (by simp) hprefix
      rw [List.cons_append, List.append_assoc, List.singleton_append] at hlater
      refine ⟨e :: kept, ?_, ?_⟩
      · rw [k.redact_cons mask hprefix, hkept, List.cons_append]
      · rw [List.cons_append, k.redact_cons mask hlater, hrest, List.cons_append]
  | value value hvalue => exact absurd (.value hvalue) (hwhole ▸ hopens)
  | marked value d cs hvalue hd ih =>
    have hmarked : ∀ more, k.redact mask (k.text ++ (value ++ (d :: cs ++ more))) =
        k.text ++ (mask ++ k.redact mask (d :: cs ++ more)) :=
      fun more => k.redact_marked mask hvalue hd
    have hsuffix : d :: cs <:+ k.text ++ (value ++ d :: cs) :=
      (List.suffix_append _ _).trans (List.suffix_append _ _)
    rw [hwhole] at hopens hapart
    replace hapart := hapart.of_suffix hsuffix
    replace hopens : ¬ k.Opens (d :: cs) := fun h => hopens (.marked hvalue hd h)
    obtain ⟨front, last, hcs⟩ := (List.eq_nil_or_concat' (d :: cs)).resolve_left
      (List.cons_ne_nil d cs)
    rw [hcs] at hwhole hmarked hapart hopens ih
    rw [← List.append_assoc, ← List.append_assoc] at hwhole
    obtain ⟨rfl, hc⟩ := List.append_inj' hwhole rfl
    cases hc
    obtain ⟨kept, hkept, hrest⟩ := ih hopens hapart rfl
    have hfirst := hmarked []
    have hlater := hmarked rest
    simp only [List.append_assoc, List.append_nil, List.singleton_append] at hfirst hlater ⊢
    exact ⟨k.text ++ (mask ++ kept), by rw [hcs, hfirst, hkept]; simp only [List.append_assoc],
      by rw [hlater, hrest]; simp only [List.append_assoc]⟩

theorem getLast?_redact (h : ¬ k.Opens text) :
    (k.redact mask text).getLast? = text.getLast? := by
  rcases List.eq_nil_or_concat' text with rfl | ⟨front, c, rfl⟩
  · rw [redact_nil]
  · obtain ⟨kept, hkept, -⟩ : ∃ kept, k.redact mask (front ++ [c]) = kept ++ [c] ∧
        k.redact mask (front ++ [c]) = kept ++ k.redact mask [c] :=
      redact_append_of_not_opens h
        fun first last _ _ hne hlast => absurd (List.prefix_nil.mp hlast) hne
    rw [hkept, List.getLast?_concat, List.getLast?_concat]

theorem redact_passes {kept : List α}
    (h : ∀ part, part ≠ [] → part <:+ kept → ¬ k.text <+: part ++ rest) :
    k.redact mask (kept ++ rest) = kept ++ k.redact mask rest := by
  induction kept with
  | nil => rfl
  | cons c kept ih =>
    have hfirst := h (c :: kept) (List.cons_ne_nil _ _) (List.suffix_refl _)
    rw [List.cons_append] at hfirst
    rw [List.cons_append, k.redact_cons mask hfirst,
      ih fun part hne hpart => h part hne (hpart.trans (List.suffix_cons _ _)), List.cons_append]

theorem redact_of_not_opens (hstops : ∀ c ∈ text, k.stops c = false) (h : ¬ k.Opens text) :
    k.redact mask text = text := by
  induction text using k.induction with
  | nil => exact k.redact_nil mask
  | char c cs hprefix ih =>
    rw [k.redact_cons mask hprefix, ih (fun d hd => hstops d (List.mem_cons_of_mem c hd))
      fun hopens => h (.char hprefix hopens)]
  | value value hvalue => exact absurd (.value hvalue) h
  | marked value c cs hvalue hc =>
    exact absurd (hstops c (by simp)) (by rw [hc]; decide)

theorem exists_redact_append {last : List α} (hlast : ∀ c ∈ last, k.stops c = false)
    (h : ¬ k.Opens (text ++ last)) : ∃ kept, k.redact mask (text ++ last) = kept ++ last := by
  induction hwhole : text ++ last using k.induction generalizing text with
  | nil =>
    rw [List.append_eq_nil_iff] at hwhole
    exact ⟨[], by rw [hwhole.2, redact_nil, List.append_nil]⟩
  | char c cs hprefix ih =>
    cases text with
    | nil =>
      rw [List.nil_append] at hwhole h
      exact ⟨[], by rw [← hwhole, redact_of_not_opens hlast h, List.nil_append]⟩
    | cons d text =>
      rw [List.cons_append, List.cons.injEq] at hwhole
      obtain ⟨rfl, rfl⟩ := hwhole
      obtain ⟨kept, hkept⟩ := ih (fun hopens => h (.char hprefix hopens)) rfl
      exact ⟨d :: kept, by rw [k.redact_cons mask hprefix, hkept, List.cons_append]⟩
  | value value hvalue => exact absurd (.value hvalue) (hwhole ▸ h)
  | marked value c cs hvalue hc ih =>
    have hparts := hwhole
    rw [← List.append_assoc] at hparts
    obtain ⟨beyond, -, hbeyond⟩ | ⟨left, -, hleft⟩ := List.append_eq_append_iff.mp hparts
    · exact absurd (hlast c (by rw [hbeyond]; simp)) (by rw [hc]; decide)
    · have hclosed : ¬ k.Opens (left ++ last) :=
        fun hopens => h (hwhole ▸ .marked hvalue hc (hleft ▸ hopens))
      obtain ⟨kept, hkept⟩ := ih hclosed hleft.symm
      exact ⟨k.text ++ (mask ++ kept), by
        rw [k.redact_marked mask hvalue hc, hkept]
        simp only [List.append_assoc]⟩

/-! Masked texts stay as they are. -/

theorem redact_mask_append (hk : k.Clear mask) (rest : List α) :
    k.redact mask (mask ++ rest) = mask ++ k.redact mask rest :=
  redact_passes fun part hne hpart hprefix => hk.begins part hne hpart
    (List.prefix_or_prefix_of_prefix hprefix (List.prefix_append part rest))

theorem masked_redact (hk : k.Clear mask) (h : j.Masked mask text) :
    j.Masked mask (k.redact mask text) := by
  obtain ⟨rest, rfl, hstops⟩ := h
  exact ⟨k.redact mask rest, redact_mask_append hk rest, by rwa [head?_redact]⟩

theorem exists_of_redact_eq_append (hk : k.Clear mask) {part last : List α} (hpart : part <:+ mask)
    (h : k.redact mask text = part ++ last) :
    ∃ rest, text = part ++ rest ∧ k.redact mask rest = last := by
  induction part generalizing text with
  | nil => exact ⟨text, rfl, h⟩
  | cons c part ih =>
    obtain ⟨cs, rfl⟩ := k.exists_of_redact_eq_cons mask h
    have hprefix : ¬ k.text <+: c :: cs := by
      rintro ⟨rest, hrest⟩
      rw [← hrest, redact_append] at h
      exact hk.begins _ (List.cons_ne_nil _ _) hpart
        (List.prefix_or_prefix_of_prefix ⟨_, h⟩ (List.prefix_append _ last))
    rw [k.redact_cons mask hprefix, List.cons_append, List.cons.injEq] at h
    obtain ⟨rest, rfl, hrest⟩ := ih ((List.suffix_cons _ _).trans hpart) h.2
    exact ⟨rest, rfl, hrest⟩

theorem masked_redact_iff (hk : k.Clear mask) :
    j.Masked mask (k.redact mask text) ↔ j.Masked mask text := by
  constructor
  · rintro ⟨last, hlast, hstops⟩
    obtain ⟨rest, rfl, rfl⟩ := exists_of_redact_eq_append hk (List.suffix_refl _) hlast
    exact ⟨rest, rfl, by rwa [head?_redact] at hstops⟩
  · exact masked_redact hk

theorem redact_eq_self (hclear : k.Clear mask) (h : k.IsMasked mask text) :
    k.redact mask text = text := by
  induction text using k.induction with
  | nil => exact k.redact_nil mask
  | char c cs hprefix ih =>
    rw [k.redact_cons mask hprefix, ih (h.of_suffix (List.suffix_cons _ _))]
  | value value hvalue =>
    have hmasked : k.Masked mask (value ++ []) := by simpa using h [] value rfl
    have hmask := eq_mask_of_masked hclear hvalue (by simp) hmasked
    rw [k.redact_value mask hvalue, hmask]
  | marked value c cs hvalue hc ih =>
    have hmasked : k.Masked mask (value ++ c :: cs) := h [] _ rfl
    have hmask := eq_mask_of_masked hclear hvalue (by simpa using hc) hmasked
    have hsuffix : c :: cs <:+ k.text ++ (value ++ c :: cs) :=
      (List.suffix_append _ _).trans (List.suffix_append _ _)
    rw [k.redact_marked mask hvalue hc, ih (h.of_suffix hsuffix), hmask]

theorem exists_prefix_of_redact (hj : j.Clear mask) (hk : k.Clear mask)
    (hstops : k.text <:+ j.text → k.stops = j.stops) {first last : List α}
    (hfirst : first <:+ j.text) (h : k.redact mask text = first ++ last) :
    ∃ rest, text = first ++ rest ∧ (j.Masked mask rest → j.Masked mask last) := by
  have hmarker : ∀ {first last tail : List α}, first <:+ j.text →
      k.text ++ (mask ++ tail) = first ++ last → (∀ c ∈ tail.head?, k.stops c = true) →
      ∀ rest, ∃ more, k.text ++ rest = first ++ more ∧
        (j.Masked mask more → j.Masked mask last) := by
    intro first last tail hfirst h htail rest
    obtain ⟨beyond, rfl, hbeyond⟩ | ⟨left, hleft, rfl⟩ := List.append_eq_append_iff.mp h
    · rcases eq_or_ne beyond [] with rfl | hne
      · rw [List.append_nil] at hfirst
        exact ⟨rest, by rw [List.append_nil], fun _ =>
          ⟨tail, hbeyond.symm, fun c hc => hstops hfirst ▸ htail c hc⟩⟩
      · exact absurd (List.prefix_or_prefix_of_prefix ⟨last, hbeyond.symm⟩
          (List.prefix_append mask tail))
          (hj.ends beyond hne ((List.suffix_append _ _).trans hfirst))
    · rcases eq_or_ne left [] with rfl | hne
      · rw [List.append_nil] at hleft
        refine ⟨rest, by rw [hleft], fun _ => ⟨tail, rfl, fun c hc => ?_⟩⟩
        exact hstops (hleft ▸ hfirst) ▸ htail c hc
      · refine ⟨left ++ rest, by rw [hleft, List.append_assoc], fun ⟨other, hother, _⟩ => ?_⟩
        exact absurd (List.prefix_or_prefix_of_prefix (List.prefix_append left rest)
          ⟨other, hother.symm⟩) (hk.ends left hne (hleft ▸ List.suffix_append _ _))
  induction text using k.induction generalizing first last with
  | nil =>
    rw [redact_nil, eq_comm, List.append_eq_nil_iff] at h
    obtain ⟨rfl, rfl⟩ := h
    exact ⟨[], rfl, id⟩
  | char c cs hprefix ih =>
    cases first with
    | nil =>
      refine ⟨c :: cs, rfl, fun hmasked => ?_⟩
      rw [List.nil_append] at h
      exact h ▸ masked_redact hk hmasked
    | cons d first =>
      rw [k.redact_cons mask hprefix, List.cons_append, List.cons.injEq] at h
      obtain ⟨rfl, h⟩ := h
      obtain ⟨rest, rfl, hrest⟩ := ih ((List.suffix_cons _ _).trans hfirst) h
      exact ⟨rest, rfl, hrest⟩
  | value value hvalue =>
    rw [k.redact_value mask hvalue, ← List.append_nil mask] at h
    exact hmarker hfirst h (by simp) value
  | marked value c cs hvalue hc =>
    rw [k.redact_marked mask hvalue hc] at h
    exact hmarker hfirst h (by rw [head?_redact]; simpa using hc) _

theorem isMasked_redact (hj : j.Clear mask) (hk : k.Clear mask)
    (hstops : k.text <:+ j.text → k.stops = j.stops)
    (hstops' : j.text <:+ k.text → j.stops = k.stops) (h : j = k ∨ j.IsMasked mask text) :
    j.IsMasked mask (k.redact mask text) := by
  have hmarker : ∀ {before more after tail rest : List α},
      k.text = before ++ (j.text ++ more) → after = more ++ (mask ++ tail) →
      (∀ c ∈ tail.head?, k.stops c = true) → j = k ∨ j.IsMasked mask (k.text ++ rest) →
      j.Masked mask after := by
    rintro before more after tail rest hleft rfl htail h
    rcases eq_or_ne more [] with rfl | hne
    · rw [List.append_nil] at hleft
      exact ⟨tail, rfl, fun c hc => hstops' (hleft ▸ List.suffix_append _ _) ▸ htail c hc⟩
    · rcases h with rfl | hmasked
      · have hlength := congrArg List.length hleft
        rw [List.length_append, List.length_append] at hlength
        exact absurd (List.length_eq_zero_iff.mp (by omega)) hne
      · obtain ⟨other, hother, -⟩ := hmasked before (more ++ rest) (by rw [hleft]; simp)
        exact absurd (List.prefix_or_prefix_of_prefix (List.prefix_append more rest)
          ⟨other, hother.symm⟩) (hk.ends more hne (hleft ▸
            (List.suffix_append _ _).trans (List.suffix_append _ _)))
  induction text using k.induction with
  | nil =>
    intro before after hafter
    rw [redact_nil] at hafter
    have hempty := (List.append_eq_nil_iff.mp hafter.symm).2
    exact absurd (List.append_eq_nil_iff.mp hempty).1 j.filled
  | char c cs hprefix ih =>
    intro before after hafter
    cases before with
    | nil =>
      obtain ⟨rest, hrest, hmasked⟩ :=
        exists_prefix_of_redact hj hk hstops (List.suffix_refl _) hafter
      rcases h with rfl | h
      · exact absurd ⟨rest, hrest.symm⟩ hprefix
      · exact hmasked (h [] rest hrest)
    | cons d before =>
      rw [k.redact_cons mask hprefix, List.cons_append, List.cons.injEq] at hafter
      exact ih (h.imp_right (·.of_suffix (List.suffix_cons _ _))) before after hafter.2
  | value value hvalue =>
    intro before after hafter
    rw [k.redact_value mask hvalue, ← List.append_nil mask] at hafter
    obtain ⟨more, hleft, hmore⟩ | ⟨more, -, hlast⟩ := occurs_of_append_mask hj hafter
    · exact hmarker hleft hmore (by simp) h
    · have hempty := (List.append_eq_nil_iff.mp hlast.symm).2
      exact absurd (List.append_eq_nil_iff.mp hempty).1 j.filled
  | marked value c cs hvalue hc ih =>
    intro before after hafter
    rw [k.redact_marked mask hvalue hc] at hafter
    obtain ⟨more, hleft, hmore⟩ | ⟨more, -, hlast⟩ := occurs_of_append_mask hj hafter
    · exact hmarker hleft hmore (by rw [head?_redact]; simpa using hc) h
    · have hsuffix : c :: cs <:+ k.text ++ (value ++ c :: cs) :=
        (List.suffix_append _ _).trans (List.suffix_append _ _)
      exact ih (h.imp_right (·.of_suffix hsuffix)) more after hlast

/-! One marker after another. -/

def redactAll (mask : List α) (markers : List (Marker α)) (text : List α) : List α :=
  markers.foldl (fun text k => k.redact mask text) text

variable {markers : List (Marker α)}

def ReadsValue (mask : List α) : List (Marker α) → List α → Prop
  | [], _ => False
  | k :: markers, text => k.Opens text ∨ ReadsValue mask markers (k.redact mask text)

theorem readsValue_of_mem (hstops : ∀ j ∈ markers, ∀ c ∈ k.text, j.stops c = false)
    (hk : k ∈ markers) (text : List α) : ReadsValue mask markers (text ++ k.text) := by
  induction markers generalizing text with
  | nil => exact absurd hk List.not_mem_nil
  | cons j markers ih =>
    obtain ⟨hj, hrest⟩ := List.forall_mem_cons.mp hstops
    by_cases hopens : j.Opens (text ++ k.text)
    · exact Or.inl hopens
    · refine Or.inr ?_
      obtain ⟨kept, hkept⟩ : ∃ kept, j.redact mask (text ++ k.text) = kept ++ k.text :=
        exists_redact_append hj hopens
      rw [hkept]
      rcases List.mem_cons.mp hk with rfl | hmem
      · exact absurd (opens_append_text hj text) hopens
      · exact ih hrest hmem kept

/-- The masks and the markers are told apart, and markers that end in the same place have values
that end in the same place. -/
structure Agree (mask : List α) (markers : List (Marker α)) : Prop where
  clear : ∀ k ∈ markers, k.Clear mask
  stops : ∀ j ∈ markers, ∀ k ∈ markers, k.text <:+ j.text → k.stops = j.stops

theorem getLast?_redactAll (h : ¬ ReadsValue mask markers text) :
    (redactAll mask markers text).getLast? = text.getLast? := by
  induction markers generalizing text with
  | nil => rfl
  | cons k markers ih =>
    rw [ReadsValue, not_or] at h
    exact (ih h.2).trans (getLast?_redact h.1)

omit [LawfulBEq α] in
theorem readsValue_append (markers others : List (Marker α)) (text : List α) :
    ReadsValue mask (markers ++ others) text ↔
      ReadsValue mask markers text ∨ ReadsValue mask others (redactAll mask markers text) := by
  induction markers generalizing text with
  | nil =>
    rw [List.nil_append, ReadsValue, false_or]
    rfl
  | cons k markers ih =>
    rw [List.cons_append, ReadsValue, ReadsValue, ih, or_assoc]
    rfl

theorem redactAll_eq_cons_iff {c : α} (h : ∀ k ∈ markers, k.text.head? ≠ some c)
    {rest : List α} : redactAll mask markers text = c :: rest ↔
      ∃ cs, text = c :: cs ∧ rest = redactAll mask markers cs := by
  induction markers generalizing text with
  | nil => exact ⟨fun heq => ⟨rest, heq, rfl⟩, fun ⟨_, htext, hrest⟩ => hrest ▸ htext⟩
  | cons k markers ih =>
    obtain ⟨hk, hmarkers⟩ := List.forall_mem_cons.mp h
    constructor
    · intro heq
      obtain ⟨cs, hcs, rfl⟩ := (ih hmarkers).mp heq
      obtain ⟨first, rfl, rfl⟩ := (k.redact_eq_cons_iff mask hk).mp hcs
      exact ⟨first, rfl, rfl⟩
    · rintro ⟨cs, rfl, rfl⟩
      exact (ih hmarkers).mpr ⟨_, k.redact_cons_of_head? mask hk cs, rfl⟩

theorem masked_redactAll_iff (h : ∀ k ∈ markers, k.Clear mask) :
    j.Masked mask (redactAll mask markers text) ↔ j.Masked mask text := by
  induction markers generalizing text with
  | nil => exact Iff.rfl
  | cons k markers ih =>
    obtain ⟨hk, hmarkers⟩ := List.forall_mem_cons.mp h
    exact (ih hmarkers).trans (masked_redact_iff hk)

theorem redactAll_eq_self (h : ∀ k ∈ markers, k.Clear mask ∧ k.IsMasked mask text) :
    redactAll mask markers text = text := by
  induction markers with
  | nil => rfl
  | cons k markers ih =>
    obtain ⟨⟨hclear, hmasked⟩, hrest⟩ := List.forall_mem_cons.mp h
    rw [redactAll, List.foldl_cons, redact_eq_self hclear hmasked]
    exact ih hrest

theorem isMasked_redactAll {all : List (Marker α)} (hagree : Agree mask all) (hj : j ∈ all)
    (hmarkers : markers ⊆ all) (h : j ∈ markers ∨ j.IsMasked mask text) :
    j.IsMasked mask (redactAll mask markers text) := by
  induction markers generalizing text with
  | nil => exact h.resolve_left List.not_mem_nil
  | cons k markers ih =>
    obtain ⟨hk, hrest⟩ := List.cons_subset.mp hmarkers
    have hkept : j = k ∨ j.IsMasked mask text → j.IsMasked mask (k.redact mask text) :=
      isMasked_redact (hagree.clear j hj) (hagree.clear k hk) (hagree.stops j hj k hk)
        (hagree.stops k hk j hj)
    refine ih hrest ?_
    rcases h with hmem | hmasked
    · exact (List.mem_cons.mp hmem).symm.imp_right fun heq => hkept (.inl heq)
    · exact .inr (hkept (.inr hmasked))

theorem redactAll_redactAll (hagree : Agree mask markers) (text : List α) :
    redactAll mask markers (redactAll mask markers text) = redactAll mask markers text :=
  redactAll_eq_self fun k hk => ⟨hagree.clear k hk,
    isMasked_redactAll hagree hk (List.Subset.refl _) (Or.inl hk)⟩

end Marker

end Jellyrin
