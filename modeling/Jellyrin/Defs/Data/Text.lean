import Mathlib.Data.List.DropRight

/-! Splitting and parsing of `str`, and decimal numerals. -/

namespace Jellyrin.Text

def split (sep : Char) (s : String) : List String := (s.toList.splitOn sep).map String.ofList

def stripPrefix (s start : String) : Option String :=
  if start.toList.isPrefixOf s.toList then some (String.ofList (s.toList.drop start.length))
  else none

def startsWith (s start : String) : Bool := start.toList.isPrefixOf s.toList

def trimMatches (c : Char) (s : String) : String :=
  String.ofList ((s.toList.dropWhile (· == c)).rdropWhile (· == c))

def trimEndMatches (c : Char) (s : String) : String := String.ofList (s.toList.rdropWhile (· == c))

def zeroPadded (width n : Nat) : String := String.ofList ((Nat.toDigits 10 n).leftpad width '0')

def unsignedDigits : List Char → List Char
  | '+' :: digits => digits
  | digits => digits

def parseUnsigned (max : Nat) (s : String) : Option Nat :=
  let digits := unsignedDigits s.toList
  if digits.isEmpty || !digits.all Char.isDigit then none
  else if Nat.ofDigitChars 10 digits 0 ≤ max then some (Nat.ofDigitChars 10 digits 0)
  else none

theorem split_intercalate (sep : Char) {parts : List String}
    (hsep : ∀ part ∈ parts, sep ∉ part.toList) (hne : parts ≠ []) :
    split sep ((String.singleton sep).intercalate parts) = parts := by
  have hlists : ∀ cs ∈ parts.map String.toList, sep ∉ cs := by
    intro cs hcs
    obtain ⟨part, hpart, rfl⟩ := List.mem_map.mp hcs
    exact hsep part hpart
  rw [split, String.toList_intercalate, String.toList_singleton,
    List.splitOn_intercalate sep hlists (by simpa using hne), List.map_map]
  simp [Function.comp_def]

variable {sep : Char}

theorem notMem_of_mem_splitOn {cs part : List Char} (h : part ∈ cs.splitOn sep) : sep ∉ part := by
  induction cs generalizing part with
  | nil =>
    cases List.mem_singleton.mp h
    exact List.not_mem_nil
  | cons c cs ih =>
    rw [List.splitOn_cons_eq_if_modifyHead] at h
    split at h
    · obtain rfl | h := List.mem_cons.mp h
      · exact List.not_mem_nil
      · exact ih h
    · rename_i hne
      cases hsplit : cs.splitOn sep with
      | nil => exact absurd hsplit (List.splitOn_ne_nil _ _)
      | cons first rest =>
        rw [hsplit, List.modifyHead_cons] at h
        obtain rfl | h := List.mem_cons.mp h
        · have hfirst : sep ∉ first := ih (by rw [hsplit]; exact List.mem_cons_self)
          intro hmem
          obtain rfl | hmem := List.mem_cons.mp hmem
          · simp at hne
          · exact hfirst hmem
        · exact ih (by rw [hsplit]; exact List.mem_cons_of_mem _ h)

variable {s : String}

theorem notMem_of_mem_split {part : String} (h : part ∈ split sep s) : sep ∉ part.toList := by
  obtain ⟨cs, hcs, rfl⟩ := List.mem_map.mp h
  rw [String.toList_ofList]
  exact notMem_of_mem_splitOn hcs

theorem split_of_notMem (h : sep ∉ s.toList) : split sep s = [s] := by
  have hparts : split sep ((String.singleton sep).intercalate [s]) = [s] :=
    split_intercalate sep (by simpa using h) (by simp)
  rwa [String.intercalate_singleton] at hparts

theorem splitOn_prefix {cs first : List Char} {rest : List (List Char)}
    (h : cs.splitOn sep = first :: rest) : first <+: cs := by
  induction cs generalizing first rest with
  | nil =>
    cases h
    exact List.prefix_refl _
  | cons c cs ih =>
    rw [List.splitOn_cons_eq_if_modifyHead] at h
    split at h
    · cases h
      exact List.nil_prefix
    · cases hsplit : cs.splitOn sep with
      | nil => exact absurd hsplit (List.splitOn_ne_nil _ _)
      | cons head tail =>
        rw [hsplit, List.modifyHead_cons] at h
        cases h
        exact (List.prefix_cons_inj c).mpr (ih hsplit)

theorem split_prefix {part : String} {parts : List String} (h : split sep s = part :: parts) :
    part.toList <+: s.toList := by
  rw [split, List.map_eq_cons_iff] at h
  obtain ⟨first, rest, hsplit, rfl, -⟩ := h
  rw [String.toList_ofList]
  exact splitOn_prefix hsplit

theorem eq_of_append_cons {first first' rest rest' : List Char} (h : sep ∉ first)
    (h' : sep ∉ first') (heq : first ++ sep :: rest = first' ++ sep :: rest') : first = first' := by
  have hbefore : ∀ {cs rest : List Char}, sep ∉ cs →
      (cs ++ sep :: rest).takeWhile (· ≠ sep) = cs := by
    intro cs rest hcs
    rw [List.takeWhile_append_of_pos fun c hc => by
        rw [decide_eq_true_eq]
        rintro rfl
        exact hcs hc,
      List.takeWhile_cons_of_neg (by simp), List.append_nil]
  rw [← hbefore h, heq, hbefore h']

variable {c : Char}

theorem trimEndMatches_of_notMem (h : c ∉ s.toList) : trimEndMatches c s = s := by
  have hlist : s.toList.rdropWhile (· == c) = s.toList := by
    rw [List.rdropWhile_eq_self_iff]
    intro hne heq
    exact h (beq_iff_eq.mp heq ▸ List.getLast_mem hne)
  rw [trimEndMatches, hlist, String.ofList_toList]

theorem trimEndMatches_append {last : String} (h : last.toList = [c]) :
    trimEndMatches c (s ++ last) = trimEndMatches c s := by
  have hlist : (s.toList ++ [c]).rdropWhile (· == c) = s.toList.rdropWhile (· == c) :=
    List.rdropWhile_concat_pos (· == c) s.toList c (beq_self_eq_true c)
  rw [trimEndMatches, String.toList_append, h, hlist, trimEndMatches]

theorem trimMatches_enclosed (h : c ∉ s.toList) :
    trimMatches c (String.ofList (c :: s.toList ++ [c])) = s := by
  have hpass : ∀ d ∈ s.toList, (d == c) = false := by
    intro d hd
    simp only [beq_eq_false_iff_ne]
    rintro rfl
    exact h hd
  rw [trimMatches, String.toList_ofList, List.cons_append, List.dropWhile_cons_of_pos (by simp)]
  have hstart : (s.toList ++ [c]).dropWhile (· == c) =
      if s.toList = [] then [] else s.toList ++ [c] := by
    cases hs : s.toList with
    | nil => simp
    | cons d ds =>
      have hd := hpass d (by simp [hs])
      simp [hd]
  rw [hstart]
  split
  · rename_i hempty
    rw [List.rdropWhile_nil, ← hempty, String.ofList_toList]
  · rename_i hne
    rw [List.rdropWhile_concat_pos _ _ _ (by simp), List.rdropWhile_eq_self_iff.mpr,
      String.ofList_toList]
    intro hl
    simp [hpass _ (List.getLast_mem hl)]

theorem stripPrefix_eq_none {start : String} (hstart : c ∈ start.toList) (hs : c ∉ s.toList) :
    stripPrefix s start = none := by
  rw [stripPrefix, if_neg]
  intro hfirst
  exact hs ((List.isPrefixOf_iff_prefix.mp hfirst).subset hstart)

theorem toList_toString (n : Nat) : (toString n).toList = Nat.toDigits 10 n := by
  rw [Nat.toString_eq_ofList_toDigits, String.toList_ofList]

theorem isDigit_of_mem_toString {n : Nat} (hc : c ∈ (toString n).toList) : c.isDigit = true := by
  rw [toList_toString] at hc
  exact Nat.isDigit_of_mem_toDigits (by decide) (by decide) hc

theorem toString_injective {m n : Nat} (h : toString m = toString n) : m = n := by
  have hdigits : Nat.toDigits 10 m = Nat.toDigits 10 n := by
    rw [← toList_toString, ← toList_toString, h]
  rw [← Nat.ofDigitChars_ten_toDigits (n := m), hdigits, Nat.ofDigitChars_ten_toDigits]

theorem parseUnsigned_toString {max n : Nat} (h : n ≤ max) :
    parseUnsigned max (toString n) = some n := by
  have hdigits : unsignedDigits (toString n).toList = Nat.toDigits 10 n := by
    rw [toList_toString]
    cases hcs : Nat.toDigits 10 n with
    | nil => rfl
    | cons c cs =>
      have hc : c.isDigit = true :=
        isDigit_of_mem_toString (n := n) (by rw [toList_toString, hcs]; exact List.mem_cons_self)
      simp only [unsignedDigits]
      split
      · rename_i heq
        cases heq
        exact absurd hc (by decide)
      · rfl
  have hall : (Nat.toDigits 10 n).all Char.isDigit = true :=
    List.all_eq_true.mpr fun c hc => isDigit_of_mem_toString (by rw [toList_toString]; exact hc)
  simp only [parseUnsigned, hdigits, hall, Nat.ofDigitChars_ten_toDigits, Bool.not_true,
    Bool.or_false, List.isEmpty_iff, Nat.toDigits_ne_nil, if_false, h, if_true]

theorem toString_negSucc (n : Nat) : toString (Int.negSucc n) = "-" ++ toString (n + 1) := rfl

theorem mem_toString_int {i : Int} (hc : c ∈ (toString i).toList) : c.isDigit = true ∨ c = '-' := by
  cases i with
  | ofNat n => exact .inl (isDigit_of_mem_toString hc)
  | negSucc n =>
    rw [toString_negSucc, String.toList_append, List.mem_append] at hc
    cases hc with
    | inl hminus => exact .inr (List.mem_singleton.mp hminus)
    | inr hdigit => exact .inl (isDigit_of_mem_toString hdigit)

theorem toString_ne_minus_append (m : Nat) (s : String) : toString m ≠ "-" ++ s := by
  intro h
  have hmem : '-' ∈ (toString m).toList := by
    rw [h, String.toList_append]
    exact List.mem_append_left _ (List.mem_singleton.mpr rfl)
  exact absurd (isDigit_of_mem_toString hmem) (by decide)

theorem toString_int_injective {i j : Int} (h : toString i = toString j) : i = j := by
  cases i with
  | ofNat m =>
    cases j with
    | ofNat n => exact congrArg Int.ofNat (toString_injective h)
    | negSucc n => exact absurd h (toString_ne_minus_append m _)
  | negSucc m =>
    cases j with
    | ofNat n => exact absurd h.symm (toString_ne_minus_append n _)
    | negSucc n =>
      rw [toString_negSucc, toString_negSucc] at h
      have hlists : "-".toList ++ (toString (m + 1)).toList =
          "-".toList ++ (toString (n + 1)).toList := by
        rw [← String.toList_append, ← String.toList_append, h]
      have hnumerals := String.toList_inj.mp (List.append_cancel_left hlists)
      exact congrArg Int.negSucc (Nat.succ.inj (toString_injective hnumerals))

theorem toString_int_ne_minus (i : Int) : toString i ≠ "-" := by
  cases i with
  | ofNat n => exact toString_ne_minus_append n ""
  | negSucc n =>
    intro h
    rw [toString_negSucc] at h
    have hlists : "-".toList ++ (toString (n + 1)).toList = "-".toList ++ [] := by
      rw [← String.toList_append, h]
      rfl
    have hempty := List.append_cancel_left hlists
    rw [toList_toString] at hempty
    exact Nat.toDigits_ne_nil hempty

/-! What a text has, its parts have not more. -/

theorem mem_of_mem_splitOn {cs part : List Char} (h : part ∈ cs.splitOn sep) (hc : c ∈ part) :
    c ∈ cs := by
  induction cs generalizing part with
  | nil =>
    cases List.mem_singleton.mp h
    exact hc
  | cons d cs ih =>
    rw [List.splitOn_cons_eq_if_modifyHead] at h
    split at h
    · obtain rfl | h := List.mem_cons.mp h
      · cases hc
      · exact List.mem_cons_of_mem _ (ih h hc)
    · cases hsplit : cs.splitOn sep with
      | nil => exact absurd hsplit (List.splitOn_ne_nil _ _)
      | cons first rest =>
        rw [hsplit, List.modifyHead_cons] at h
        obtain rfl | h := List.mem_cons.mp h
        · obtain rfl | hc := List.mem_cons.mp hc
          · exact List.mem_cons_self
          · exact List.mem_cons_of_mem _ (ih (by rw [hsplit]; exact List.mem_cons_self) hc)
        · exact List.mem_cons_of_mem _ (ih (by rw [hsplit]; exact List.mem_cons_of_mem _ h) hc)

theorem mem_of_mem_split {part : String} (h : part ∈ split sep s) (hc : c ∈ part.toList) :
    c ∈ s.toList := by
  obtain ⟨cs, hcs, rfl⟩ := List.mem_map.mp h
  rw [String.toList_ofList] at hc
  exact mem_of_mem_splitOn hcs hc

theorem mem_of_mem_trimMatches {d : Char} (h : d ∈ (trimMatches c s).toList) : d ∈ s.toList := by
  rw [trimMatches, String.toList_ofList] at h
  exact (List.dropWhile_suffix _).mem ((List.rdropWhile_prefix _ _).mem h)

theorem mem_of_stripPrefix {start rest : String} (h : stripPrefix s start = some rest)
    (hc : c ∈ rest.toList) : c ∈ s.toList := by
  rw [stripPrefix] at h
  split at h
  · cases h
    rw [String.toList_ofList] at hc
    exact List.mem_of_mem_drop hc
  · cases h

theorem stripPrefix_append (start rest : String) : stripPrefix (start ++ rest) start = some rest := by
  have hdrop : (start.toList ++ rest.toList).drop start.length = rest.toList :=
    List.drop_left' String.length_toList
  rw [stripPrefix, String.toList_append, if_pos (List.isPrefixOf_iff_prefix.mpr
    (List.prefix_append _ _)), hdrop, String.ofList_toList]

theorem mem_intercalate {sep : String} {parts : List String}
    (h : c ∈ (sep.intercalate parts).toList) :
    c ∈ sep.toList ∨ ∃ part ∈ parts, c ∈ part.toList := by
  induction parts with
  | nil => simp at h
  | cons part parts ih =>
    cases parts with
    | nil => exact .inr ⟨part, List.mem_cons_self, by simpa using h⟩
    | cons next parts =>
      rw [String.intercalate_cons_cons, String.toList_append, String.toList_append,
        List.mem_append, List.mem_append] at h
      obtain (h | h) | h := h
      · exact .inr ⟨part, List.mem_cons_self, h⟩
      · exact .inl h
      · obtain h | ⟨later, hlater, hc⟩ := ih h
        · exact .inl h
        · exact .inr ⟨later, List.mem_cons_of_mem _ hlater, hc⟩

end Jellyrin.Text
