import Mathlib.Data.List.DropRight

/-! Cutting a list at the first element that meets a test. -/

namespace Jellyrin

universe u

variable {α : Type u}

/-- What stands before the first element that meets the test, and after it. -/
def splitOnce (p : α → Bool) : List α → Option (List α × List α)
  | [] => none
  | a :: as => if p a then some ([], as) else (splitOnce p as).map fun (l, r) => (a :: l, r)

variable {p : α → Bool}

theorem splitOnce_eq_none {as : List α} (h : ∀ a ∈ as, p a = false) : splitOnce p as = none := by
  induction as with
  | nil => rfl
  | cons a as ih => simp [splitOnce, h a, ih fun b hb => h b (List.mem_cons_of_mem a hb)]

theorem splitOnce_append {before after : List α} {a : α} (h : ∀ b ∈ before, p b = false)
    (ha : p a = true) : splitOnce p (before ++ a :: after) = some (before, after) := by
  induction before with
  | nil => simp [splitOnce, ha]
  | cons b before ih => simp [splitOnce, h b, ih fun c hc => h c (List.mem_cons_of_mem b hc)]

theorem splitOnce_eq_some {as before after : List α} (h : splitOnce p as = some (before, after)) :
    ∃ a, p a = true ∧ as = before ++ a :: after ∧ ∀ b ∈ before, p b = false := by
  induction as generalizing before with
  | nil => cases h
  | cons a as ih =>
    rw [splitOnce] at h
    split at h
    · rename_i ha
      cases h
      exact ⟨a, ha, rfl, by simp⟩
    · rename_i ha
      obtain ⟨⟨l, r⟩, hsplit, heq⟩ := Option.map_eq_some_iff.mp h
      cases heq
      obtain ⟨b, hb, rfl, hbefore⟩ := ih hsplit
      exact ⟨b, hb, rfl, by simpa using ⟨Bool.eq_false_iff.mpr ha, hbefore⟩⟩

def rsplitOnce (p : α → Bool) (as : List α) : Option (List α × List α) :=
  (splitOnce p as.reverse).map fun (after, before) => (before.reverse, after.reverse)

theorem rsplitOnce_append {before after : List α} {a : α} (h : ∀ b ∈ after, p b = false)
    (ha : p a = true) : rsplitOnce p (before ++ a :: after) = some (before, after) := by
  have hreverse : (before ++ a :: after).reverse = after.reverse ++ a :: before.reverse := by simp
  rw [rsplitOnce, hreverse, splitOnce_append (by simpa using h) ha]
  simp

theorem rsplitOnce_eq_none {as : List α} (h : ∀ a ∈ as, p a = false) : rsplitOnce p as = none := by
  rw [rsplitOnce, splitOnce_eq_none (by simpa using h), Option.map_none]

theorem rsplitOnce_eq_some {as before after : List α}
    (h : rsplitOnce p as = some (before, after)) :
    ∃ a, p a = true ∧ as = before ++ a :: after ∧ ∀ b ∈ after, p b = false := by
  rw [rsplitOnce] at h
  obtain ⟨⟨afterReversed, beforeReversed⟩, hsplit, heq⟩ := Option.map_eq_some_iff.mp h
  cases heq
  obtain ⟨a, ha, hreverse, hafter⟩ := splitOnce_eq_some hsplit
  refine ⟨a, ha, ?_, by simpa using hafter⟩
  rw [← List.reverse_reverse as, hreverse]
  simp

end Jellyrin

/-! Lines that a terminator ends each, but for a last one that may be open. -/

namespace Jellyrin

universe u

variable {α : Type u} [DecidableEq α] {newline : α} {line : List α}

/-- The lines of a stream.  What follows the last terminator counts unless it is empty. -/
def terminatedLines (newline : α) (stream : List α) : List (List α) :=
  let parts := stream.splitOn newline
  if parts.getLast? = some [] then parts.dropLast else parts

@[simp] theorem terminatedLines_nil (newline : α) : terminatedLines newline [] = [] := by
  simp [terminatedLines]

theorem terminatedLines_open (h : newline ∉ line) (hne : line ≠ []) :
    terminatedLines newline line = [line] := by
  simp [terminatedLines, List.splitOn_eq_singleton h, hne]

theorem terminatedLines_line (h : newline ∉ line) (stream : List α) :
    terminatedLines newline (line ++ newline :: stream) =
      line :: terminatedLines newline stream := by
  simp only [terminatedLines, List.splitOn_append_cons_self_of_not_mem h]
  cases hparts : stream.splitOn newline with
  | nil => exact absurd hparts (List.splitOn_ne_nil newline stream)
  | cons part parts =>
    rw [List.getLast?_cons_cons, List.dropLast_cons_cons]
    split <;> rfl

end Jellyrin

/-! Parts that are joined by a separator.  The joined list tells the pieces between the separators;
it tells the parts when no part has a separator inside. -/

namespace Jellyrin.Separated

universe u

variable {α : Type u} [BEq α] (sep : α)

def pieces (parts : List (List α)) : List (List α) := parts.flatMap (·.splitOn sep)

@[simp] theorem pieces_cons (part : List α) (parts : List (List α)) :
    pieces sep (part :: parts) = part.splitOn sep ++ pieces sep parts := rfl

omit [BEq α] in
theorem map_intercalate {β : Type*} (f : α → β) (parts : List (List α)) :
    ([sep].intercalate parts).map f = [f sep].intercalate (parts.map (List.map f)) := by
  induction parts with
  | nil => rfl
  | cons part parts ih =>
    cases parts with
    | nil => simp [List.intercalate_singleton]
    | cons next parts =>
      rw [List.intercalate_cons_cons, List.map_append, List.map_append, ih]
      simp only [List.map_cons, List.map_nil, List.intercalate_cons_cons]

variable [LawfulBEq α]

variable {parts : List (List α)}

theorem splitOn_intercalate_eq_pieces (h : parts ≠ []) :
    ([sep].intercalate parts).splitOn sep = pieces sep parts := by
  induction parts with
  | nil => exact absurd rfl h
  | cons part parts ih =>
    cases parts with
    | nil => simp [pieces, List.intercalate_singleton]
    | cons next parts =>
      rw [List.intercalate_cons_cons, List.append_assoc, List.singleton_append,
        List.splitOn_append_cons_self, ih (by simp)]
      simp only [pieces_cons]

theorem intercalate_eq_iff {parts' : List (List α)} (h : parts ≠ []) (h' : parts' ≠ []) :
    [sep].intercalate parts = [sep].intercalate parts' ↔ pieces sep parts = pieces sep parts' := by
  rw [← splitOn_intercalate_eq_pieces sep h, ← splitOn_intercalate_eq_pieces sep h']
  constructor
  · intro heq
    rw [heq]
  · intro heq
    have hjoin := @List.intercalate_splitOn _ ([sep].intercalate parts) _ _ sep
    rw [← hjoin, heq, List.intercalate_splitOn]

theorem pieces_eq_self (h : ∀ part ∈ parts, sep ∉ part) : pieces sep parts = parts := by
  induction parts with
  | nil => rfl
  | cons part parts ih =>
    obtain ⟨hpart, hparts⟩ := List.forall_mem_cons.mp h
    rw [pieces_cons, List.splitOn_eq_singleton hpart, ih hparts, List.singleton_append]

theorem eq_of_intercalate_eq {parts' : List (List α)} (hne : parts ≠ []) (hne' : parts' ≠ [])
    (h : ∀ part ∈ parts, sep ∉ part) (h' : ∀ part ∈ parts', sep ∉ part)
    (heq : [sep].intercalate parts = [sep].intercalate parts') : parts = parts' := by
  have hpieces := (intercalate_eq_iff sep hne hne').mp heq
  rwa [pieces_eq_self sep h, pieces_eq_self sep h'] at hpieces

/-! What is dropped from the two ends of the joined list is dropped from the two outer parts. -/

section Ends

variable {p : α → Bool}

def dropWhileFirst (p : α → Bool) : List (List α) → List (List α)
  | [] => []
  | part :: parts => part.dropWhile p :: parts

def dropWhileLast (p : α → Bool) : List (List α) → List (List α)
  | [] => []
  | [part] => [part.rdropWhile p]
  | part :: next :: parts => part :: dropWhileLast p (next :: parts)

omit [BEq α] [LawfulBEq α] in
theorem dropWhileFirst_ne_nil (h : parts ≠ []) : dropWhileFirst p parts ≠ [] := by
  cases parts with
  | nil => exact absurd rfl h
  | cons part parts => simp [dropWhileFirst]

omit [BEq α] [LawfulBEq α] in
theorem dropWhileLast_ne_nil (h : parts ≠ []) : dropWhileLast p parts ≠ [] := by
  cases parts with
  | nil => exact absurd rfl h
  | cons part parts => cases parts <;> simp [dropWhileLast]

omit [BEq α] [LawfulBEq α] in
theorem rdropWhile_append_cons {sep : α} (h : p sep = false) (as bs : List α) :
    (as ++ sep :: bs).rdropWhile p = as ++ sep :: bs.rdropWhile p := by
  simp only [List.rdropWhile, List.reverse_append, List.reverse_cons, List.append_assoc,
    List.singleton_append, List.dropWhile_append]
  cases hend : bs.reverse.dropWhile p with
  | nil => simp [h]
  | cons b bs => simp

omit [BEq α] [LawfulBEq α] in
theorem dropWhile_append_cons {sep : α} (h : p sep = false) (as bs : List α) :
    (as ++ sep :: bs).dropWhile p = as.dropWhile p ++ sep :: bs := by
  rw [List.dropWhile_append]
  cases hstart : as.dropWhile p with
  | nil => simp [h]
  | cons a as => simp

omit [BEq α] [LawfulBEq α] in
theorem rdropWhile_dropWhile_append {word : List α} (hne : word ≠ [])
    (h : ∀ a ∈ word, p a = false) (as bs : List α) :
    ((as ++ word ++ bs).dropWhile p).rdropWhile p =
      as.dropWhile p ++ word ++ bs.rdropWhile p := by
  have hstart : (as ++ word ++ bs).dropWhile p = as.dropWhile p ++ word ++ bs := by
    obtain ⟨first, rest, rfl⟩ := List.exists_cons_of_ne_nil hne
    have hfirst := dropWhile_append_cons (h first List.mem_cons_self) as (rest ++ bs)
    simpa using hfirst
  have hend := rdropWhile_append_cons (h _ (List.getLast_mem hne))
    (as.dropWhile p ++ word.dropLast) bs
  rw [hstart]
  have hword := List.dropLast_append_getLast hne
  rw [← hword]
  simpa using hend

omit [BEq α] [LawfulBEq α] in
theorem dropWhile_intercalate {sep : α} (h : p sep = false) (parts : List (List α)) :
    ([sep].intercalate parts).dropWhile p = [sep].intercalate (dropWhileFirst p parts) := by
  cases parts with
  | nil => rfl
  | cons part parts =>
    cases parts with
    | nil => simp [dropWhileFirst, List.intercalate_singleton]
    | cons next parts =>
      rw [dropWhileFirst, List.intercalate_cons_cons, List.intercalate_cons_cons, List.append_assoc,
        List.append_assoc, List.singleton_append, dropWhile_append_cons h]

omit [BEq α] [LawfulBEq α] in
theorem rdropWhile_intercalate {sep : α} (h : p sep = false) (parts : List (List α)) :
    ([sep].intercalate parts).rdropWhile p = [sep].intercalate (dropWhileLast p parts) := by
  induction parts with
  | nil => rfl
  | cons part parts ih =>
    cases parts with
    | nil => simp [dropWhileLast, List.intercalate_singleton]
    | cons next parts =>
      have hne : dropWhileLast p (next :: parts) ≠ [] := dropWhileLast_ne_nil (by simp)
      rw [dropWhileLast, List.intercalate_cons_cons, List.append_assoc, List.singleton_append,
        rdropWhile_append_cons h, ih, List.intercalate_cons_of_ne_nil hne, List.append_assoc,
        List.singleton_append]

end Ends

/-! A word without a separator, in front of it nothing or a head that ends with one, behind it
nothing or a tail that begins with one. -/

section Framed

variable {β : Type u} {sep : β} {p : β → Bool} {head word tail head' word' tail' : List β}

def EndsAt (sep : β) (head : List β) : Prop := ∀ b ∈ head.getLast?, b = sep

def BeginsAt (sep : β) (tail : List β) : Prop := ∀ b ∈ tail.head?, b = sep

theorem endsAt_dropWhile (p : β → Bool) (as : List β) (sep : β) :
    EndsAt sep ((as ++ [sep]).dropWhile p) := by
  intro b hb
  obtain ⟨first, hfirst⟩ := List.dropWhile_suffix (l := as ++ [sep]) p
  have hlast := congrArg List.getLast? hfirst
  rw [List.getLast?_append, Option.mem_def.mp hb] at hlast
  simpa using hlast

theorem beginsAt_rdropWhile (p : β → Bool) (sep : β) (as : List β) :
    BeginsAt sep ((sep :: as).rdropWhile p) := by
  intro b hb
  obtain ⟨last, hlast⟩ := List.rdropWhile_prefix p (l := sep :: as)
  have hhead := congrArg List.head? hlast
  rw [List.head?_append, Option.mem_def.mp hb] at hhead
  simpa using hhead

def Overlaps (sep : β) (head word tail head' word' tail' : List β) : Prop :=
  ∃ middle, head' = head ++ word ++ sep :: middle ∧ tail = sep :: middle ++ word' ++ tail'

theorem word_eq_of_append {more : List β} (hword : sep ∉ word ++ more)
    (htail : BeginsAt sep (more ++ tail)) : more = [] := by
  cases more with
  | nil => rfl
  | cons b more =>
    have hb := htail b rfl
    rw [hb] at hword
    simp at hword

theorem word_eq (hword : sep ∉ word) (hword' : sep ∉ word') (htail : BeginsAt sep tail)
    (htail' : BeginsAt sep tail') (h : word ++ tail = word' ++ tail') :
    word = word' ∧ tail = tail' := by
  rcases List.append_eq_append_iff.mp h with ⟨more, rfl, rfl⟩ | ⟨more, rfl, rfl⟩
  · rw [word_eq_of_append hword' htail]
    simp
  · rw [word_eq_of_append hword htail']
    simp

theorem overlaps_of_append {more : List β} (hhead : EndsAt sep (head ++ more)) (hne : more ≠ [])
    (hword : sep ∉ word) (htail : BeginsAt sep tail)
    (h : word ++ tail = more ++ (word' ++ tail')) :
    Overlaps sep head word tail (head ++ more) word' tail' := by
  have hlast : sep ∈ more := by
    have hend := hhead (more.getLast hne) (by
      rw [List.getLast?_append, List.getLast?_eq_some_getLast hne]
      rfl)
    rw [← hend]
    exact List.getLast_mem hne
  rcases List.append_eq_append_iff.mp h with ⟨rest, rfl, rfl⟩ | ⟨rest, rfl, -⟩
  · cases rest with
    | nil =>
      rw [List.append_nil] at hlast
      exact absurd hlast hword
    | cons b middle =>
      have hb := htail b rfl
      subst hb
      exact ⟨middle, by simp, by simp⟩
  · exact absurd (List.mem_append_left rest hlast) hword

theorem framed_eq_iff (hhead : EndsAt sep head) (hhead' : EndsAt sep head') (hword : sep ∉ word)
    (hword' : sep ∉ word') (htail : BeginsAt sep tail) (htail' : BeginsAt sep tail') :
    head ++ word ++ tail = head' ++ word' ++ tail' ↔
      (head = head' ∧ word = word' ∧ tail = tail') ∨
        Overlaps sep head word tail head' word' tail' ∨
        Overlaps sep head' word' tail' head word tail := by
  constructor
  · intro h
    rw [List.append_assoc, List.append_assoc] at h
    rcases List.append_eq_append_iff.mp h with ⟨more, rfl, hrest⟩ | ⟨more, rfl, hrest⟩
    · by_cases hne : more = []
      · subst hne
        exact .inl ⟨by simp, word_eq hword hword' htail htail' hrest⟩
      · exact .inr (.inl (overlaps_of_append hhead' hne hword htail hrest))
    · by_cases hne : more = []
      · subst hne
        exact .inl ⟨by simp, word_eq hword hword' htail htail' hrest.symm⟩
      · exact .inr (.inr (overlaps_of_append hhead hne hword' htail' hrest))
  · rintro (⟨rfl, rfl, rfl⟩ | ⟨middle, rfl, rfl⟩ | ⟨middle, rfl, rfl⟩)
    · rfl
    · simp
    · simp

end Framed

end Jellyrin.Separated
